/-
  Recordwise.Proofs.Transform.EntryOrder
  ──────────────────────────────────────
  **The entries of a keyed record may come in any order.**

  Two keyed records whose entries are the same in another order, no known name
  among them twice, are rejected both or bind the same values; what a
  transform makes of a record depends on these alone, and not on the order in
  which they arrived.  Main statements:

      evaluated_congr            — what is made of records that answer alike
      decode_perm                — what entries in another order bind
      result_run_of_perm_entries — what a run gives for them
-/
import Recordwise.Proofs.Evaluation.Lookups
import Recordwise.Proofs.Record.KeyedReading
import Recordwise.Proofs.Transform.Creation
import Recordwise.Proofs.Transform.History

namespace Recordwise

open Query Record

/-! ## §1. Records that answer alike. -/

/-- **What is made of records that answer alike** is the same. -/
theorem Transform.evaluated_congr (t : Transform) {s u : Scope} (agree : ∀ e, s.AgreeOn u e) :
    t.evaluated s = t.evaluated u := by
  have contributions (o : Output) : s.contribution o = u.contribution o := by
    unfold Scope.contribution Scope.value
    rw [Scope.evaluate_congr (agree o.expr)]
  have truths (c : Condition) : s.truth c = u.truth c := by
    unfold Scope.truth
    rw [Scope.holds_congr fun e _ => agree e]
  have passes : t.passes s = t.passes u := by
    unfold Transform.passes
    rw [funext truths]
  have produced : t.produced s = t.produced u := by
    unfold Transform.produced
    rw [funext contributions]
  unfold Transform.evaluated
  rw [passes, produced]

/-! ## §2. Entries in another order. -/

section

variable {entry pair : Char} {bytes others : List UInt8} {cs ds : List Char}

/-- **What entries in another order bind**: both records are refused, or both
bind the same value to every name. -/
theorem Codec.decode_perm {codec : Codec} (keyed : codec.layout = .keyed entry pair)
    (read : codec.charset.decode bytes = .ok cs) (read' : codec.charset.decode others = .ok ds)
    (perm : (splitRaw entry (stripLineEnd cs)).Perm (splitRaw entry (stripLineEnd ds)))
    (once : (knownNames pair codec.fields (splitRaw entry (stripLineEnd cs))).Nodup) :
    ((∃ f, codec.decode bytes = .error f) ∧ ∃ g, codec.decode others = .error g) ∨
      ∃ b c, codec.decode bytes = .ok b ∧ codec.decode others = .ok c ∧
        ∀ name, b.get? name = c.get? name := by
  have text {raw : List UInt8} {es : List Char} (read : codec.charset.decode raw = .ok es) :
      codec.decode raw = readKeyed entry pair codec.fields (stripLineEnd es) := by
    unfold decode
    rw [read]
    show codec.readText es = _
    rw [readText, keyed]
  rw [text read, text read']
  exact readKeyed_perm perm once

/-- **What a run gives for entries in another order**, no known name twice:
both records are rejected for the decoder, or both bind the same value to every
name and every run gives the same for both, behind whatever calls. -/
theorem Transform.result_run_of_perm_entries {t : Transform}
    (keyed : t.decoder.layout = .keyed entry pair)
    (read : t.decoder.charset.decode bytes = .ok cs)
    (read' : t.decoder.charset.decode others = .ok ds)
    (perm : (splitRaw entry (stripLineEnd cs)).Perm (splitRaw entry (stripLineEnd ds)))
    (once : (knownNames pair t.decoder.fields (splitRaw entry (stripLineEnd cs))).Nodup) :
    (∃ f g, f.IsDecode ∧ g.IsDecode ∧ t.decoder.decode bytes = .error f ∧
        t.decoder.decode others = .error g ∧ ∀ parameters calls,
          (t.run bytes parameters (t.cacheAfter calls)).result = .error (.failed f) ∧
            (t.run others parameters (t.cacheAfter calls)).result = .error (.failed g)) ∨
      ∃ b c, t.decoder.decode bytes = .ok b ∧ t.decoder.decode others = .ok c ∧
        (∀ name, b.get? name = c.get? name) ∧ ∀ parameters earlier later,
          (t.run bytes parameters (t.cacheAfter earlier)).result =
            (t.run others parameters (t.cacheAfter later)).result := by
  rcases Codec.decode_perm keyed read read' perm once with
    ⟨⟨f, here⟩, g, there⟩ | ⟨b, c, here, there, same⟩
  · left
    refine ⟨f, g, t.decoder.decode_failsWith bytes f here,
      t.decoder.decode_failsWith others g there,
      here, there, fun parameters calls => ?_⟩
    rw [run_of_decode_error here, run_of_decode_error there]
    exact ⟨rfl, rfl⟩
  · right
    refine ⟨b, c, here, there, same, fun parameters earlier later => ?_⟩
    -- the bindings may differ as lists, but evaluation only looks names up
    have made : t.evaluated ⟨t.context, b, parameters⟩ = t.evaluated ⟨t.context, c, parameters⟩ :=
      t.evaluated_congr (Scope.agreeOn_of_get? same)
    rw [result_run_of_calls, result_run_of_calls]
    unfold outcome
    rw [here, there]
    show t.evaluated _ >>= t.delivered = t.evaluated _ >>= t.delivered
    rw [made]

/-- Two fields arrive in either order, among entries that are empty or of no
known name, and the output is the same. -/
theorem Transform.result_run_of_perm_entries_swapped :
    ∃ t log b c, create .tabulated ⟨"select a as x, b as y from s", "UTC", ["yyyy"]⟩
        ⟨"UTF-8", .defaultKeyed, [⟨"a", none, false⟩, ⟨"b", none, false⟩]⟩
        ⟨"UTF-8", .defaultKeyed, [⟨"x", none, false⟩, ⟨"y", none, false⟩]⟩ = .ok (t, log) ∧
      t.decoder.decode (Charset.utf8.encode "a=1&&b=2&q=3&q=4".toList) = .ok b ∧
      t.decoder.decode (Charset.utf8.encode "q=4&b=2&q=3&a=1&\n".toList) = .ok c ∧
      b.toList = [("a", .text "1"), ("b", .text "2")] ∧
      c.toList = [("b", .text "2"), ("a", .text "1")] ∧
      (t.run (Charset.utf8.encode "a=1&&b=2&q=3&q=4".toList) [] .empty).result =
        .ok ["x=1&y=2"] ∧
      (t.run (Charset.utf8.encode "q=4&b=2&q=3&a=1&\n".toList) [] .empty).result =
        .ok ["x=1&y=2"] := by
  have parsed : parseStatement "select a as x, b as y from s" =
      .ok ⟨[⟨.column "a", some "x"⟩, ⟨.column "b", some "y"⟩], "s", none⟩ :=
    parseStatement_of_tokens
      (show tokens? _ = some [.word "select", .word "a", .word "as", .word "x", .comma,
        .word "b", .word "as", .word "y", .word "from", .word "s"] by decide +kernel) rfl
  have created : ∃ log, create .tabulated ⟨"select a as x, b as y from s", "UTC", ["yyyy"]⟩
      ⟨"UTF-8", .defaultKeyed, [⟨"a", none, false⟩, ⟨"b", none, false⟩]⟩
      ⟨"UTF-8", .defaultKeyed, [⟨"x", none, false⟩, ⟨"y", none, false⟩]⟩ =
      .ok (⟨⟨[⟨"x", .column "a"⟩, ⟨"y", .column "b"⟩], none⟩,
        ⟨Zone.utc, [⟨"yyyy", [.year]⟩]⟩,
        ⟨.utf8, .defaultKeyed, [⟨"a", none, false⟩, ⟨"b", none, false⟩]⟩,
        ⟨.utf8, .defaultKeyed, [⟨"x", none, false⟩, ⟨"y", none, false⟩]⟩⟩, log) :=
    exists_create rfl rfl (context_utc_year _) parsed rfl
  have read : Charset.utf8.decode (Charset.utf8.encode "a=1&&b=2&q=3&q=4".toList) = .ok _ :=
    Charset.decode_encode_of_has fun _ _ => rfl
  have read' : Charset.utf8.decode (Charset.utf8.encode "q=4&b=2&q=3&a=1&\n".toList) = .ok _ :=
    Charset.decode_encode_of_has fun _ _ => rfl
  have bound : Codec.decode ⟨.utf8, .defaultKeyed, [⟨"a", none, false⟩, ⟨"b", none, false⟩]⟩
      (Charset.utf8.encode "a=1&&b=2&q=3&q=4".toList) =
      .ok (.ofList [("a", .text "1"), ("b", .text "2")]) := by
    rw [Codec.decode, read]
    decide +kernel
  have bound' : Codec.decode ⟨.utf8, .defaultKeyed, [⟨"a", none, false⟩, ⟨"b", none, false⟩]⟩
      (Charset.utf8.encode "q=4&b=2&q=3&a=1&\n".toList) =
      .ok (.ofList [("b", .text "2"), ("a", .text "1")]) := by
    rw [Codec.decode, read']
    decide +kernel
  obtain ⟨log, created⟩ := created
  refine ⟨_, log, _, _, created, bound, bound', rfl, rfl, ?_⟩
  rcases result_run_of_perm_entries
      (t := ⟨⟨[⟨"x", .column "a"⟩, ⟨"y", .column "b"⟩], none⟩, ⟨Zone.utc, [⟨"yyyy", [.year]⟩]⟩,
        ⟨.utf8, .defaultKeyed, [⟨"a", none, false⟩, ⟨"b", none, false⟩]⟩,
        ⟨.utf8, .defaultKeyed, [⟨"x", none, false⟩, ⟨"y", none, false⟩]⟩⟩)
      rfl read read' (by decide +kernel) (by decide +kernel) with
    ⟨f, -, -, -, refused, -⟩ | ⟨b, c, -, -, -, same⟩
  · rw [bound] at refused
    cases refused
  · have given : (run ⟨⟨[⟨"x", .column "a"⟩, ⟨"y", .column "b"⟩], none⟩,
        ⟨Zone.utc, [⟨"yyyy", [.year]⟩]⟩,
        ⟨.utf8, .defaultKeyed, [⟨"a", none, false⟩, ⟨"b", none, false⟩]⟩,
        ⟨.utf8, .defaultKeyed, [⟨"x", none, false⟩, ⟨"y", none, false⟩]⟩⟩
        (Charset.utf8.encode "a=1&&b=2&q=3&q=4".toList) [] .empty).result = .ok ["x=1&y=2"] := by
      rw [run, bound]
      rfl
    exact ⟨given, (same [] [] []).symm.trans given⟩

end

end Recordwise
