/-
  Recordwise.Proofs.Record.Transport
  ──────────────────────────────────
  **Texts that leave by one codec and arrive by another.**

  A text whose characters the character set has survives as bytes, and a
  schema that differs from an accepted one in nothing but defaults and
  required marks is accepted too.  What a record says does not depend on the
  line end behind it; without one, a line feed that the record itself ends in
  is taken for it.  Main statements:

      decode_encode_of_has — bytes of a text decode to the text
      exists_codec         — a matching schema has a codec
      decode_line          — a record with a line end says what the record
                             says; alone it does unless it ends in a line feed
-/
import Recordwise.Record.Codec
import Recordwise.Proofs.Record.Splitting

namespace Recordwise

/-! ## §1. Character sets. -/

namespace Charset

/-- The accepted texts are those whose characters the set has. -/
theorem checkEncodable_eq_ok_iff {charset : Charset} {cs : List Char} :
    charset.checkEncodable cs = .ok () ↔ ∀ c ∈ cs, charset.has c = true := by
  unfold checkEncodable
  cases h : cs.find? fun c => !charset.has c with
  | none =>
      have all : ∀ c ∈ cs, charset.has c = true := by simpa using h
      exact ⟨fun _ => all, fun _ => rfl⟩
  | some c =>
      have hc : charset.has c = false := by simpa using List.find?_some h
      refine ⟨fun e => ?_, fun all => ?_⟩
      · cases e
      · exact absurd (all c (List.mem_of_find?_eq_some h)) (by rw [hc]; decide)

theorem ofNat_toNat_ofNat_of_has {c : Char} (h : latin1.has c = true) :
    Char.ofNat (UInt8.ofNat c.toNat).toNat = c := by
  have small : c.toNat ≤ 0xFF := by simpa [has] using h
  rw [Text.Utf8.toNat_ofNat_lt (by omega), Char.ofNat_toNat]

/-- **The bytes of a text decode to the text.** -/
theorem decode_encode_of_has {charset : Charset} {cs : List Char}
    (h : ∀ c ∈ cs, charset.has c = true) : charset.decode (charset.encode cs) = .ok cs := by
  cases charset with
  | utf8 =>
      simp only [decode, encode, Text.Utf8.decode_encode]
  | latin1 =>
      show Except.ok ((cs.map fun c => UInt8.ofNat c.toNat).map fun b => Char.ofNat b.toNat)
        = Except.ok cs
      rw [List.map_map]
      congr 1
      refine (List.map_congr_left fun c hc => ?_).trans (List.map_id cs)
      exact ofNat_toNat_ofNat_of_has (h c hc)

/-- Every set has the characters of line ends. -/
theorem has_lineEnd (charset : Charset) {c : Char} (h : c ∈ ['\r', '\n']) :
    charset.has c = true := by
  simp only [List.mem_cons, List.not_mem_nil, or_false] at h
  rcases h with rfl | rfl
  · cases charset <;> rfl
  · cases charset <;> rfl

/-- With the characters of a text a set has those of the text with a line
end. -/
theorem has_append_lineEnd {charset : Charset} {cs : List Char}
    (h : ∀ c ∈ cs, charset.has c = true) : ∀ c ∈ cs ++ ['\r', '\n'], charset.has c = true := by
  intro c listed
  rcases List.mem_append.1 listed with inside | behind
  · exact h c inside
  · exact charset.has_lineEnd behind

end Charset

/-! ## §2. Schemas that match. -/

namespace Schema

/-- Two schemas that differ in nothing but how they spell the character set,
and in defaults and required marks. -/
structure Matches (source sink : Schema) : Prop where
  /-- The names denote the same character set. -/
  charset : Charset.ofName? source.charset = Charset.ofName? sink.charset
  /-- The layouts are the same. -/
  layout : source.layout = sink.layout
  /-- The fields have the same names, in the same order. -/
  names : source.fields.map (·.name) = sink.fields.map (·.name)

/-- Whether a field list is accepted depends on its names alone. -/
theorem checkFields_congr {fs gs : List Field} (h : fs.map (·.name) = gs.map (·.name)) :
    checkFields fs = .ok () ↔ checkFields gs = .ok () := by
  have all_iff : ∀ hs : List Field,
      (∀ f ∈ hs, f.name ≠ "") ↔ ∀ n ∈ hs.map (·.name), n ≠ "" := by
    intro hs
    simp
  rw [checkFields_eq_ok_iff, checkFields_eq_ok_iff, all_iff, all_iff, h]

theorem codec_eq_ok_iff {s : Schema} {c : Codec} :
    s.codec = .ok c ↔ checkFields s.fields = .ok () ∧ checkLayout s.layout = .ok () ∧
      Charset.ofName? s.charset = some c.charset ∧ c.layout = s.layout ∧
      c.fields = s.fields := by
  obtain ⟨charset, layout, fields⟩ := c
  unfold codec Charset.ofName
  cases hf : checkFields s.fields with
  | error e => simp [bind, Except.bind]
  | ok =>
      cases hl : checkLayout s.layout with
      | error e => simp [bind, Except.bind]
      | ok =>
          cases hc : Charset.ofName? s.charset with
          | none => simp [bind, Except.bind]
          | some c =>
              simp only [bind, Except.bind, pure, Except.pure, Except.ok.injEq,
                Codec.mk.injEq, Option.some.injEq, true_and]
              exact ⟨fun ⟨a, b, d⟩ => ⟨a, b.symm, d.symm⟩, fun ⟨a, b, d⟩ => ⟨a, b.symm, d.symm⟩⟩

/-- **A schema that matches an accepted one is accepted.** -/
theorem exists_codec {source sink : Schema} {c : Codec} (h : source.Matches sink)
    (accepted : sink.codec = .ok c) :
    ∃ d : Codec, source.codec = .ok d ∧ d.charset = c.charset ∧ d.layout = c.layout ∧
      d.fields.map (·.name) = c.fields.map (·.name) := by
  obtain ⟨hf, hl, hc, layout, fields⟩ := codec_eq_ok_iff.1 accepted
  refine ⟨⟨c.charset, source.layout, source.fields⟩, codec_eq_ok_iff.2 ?_, rfl, ?_, ?_⟩
  · exact ⟨(checkFields_congr h.names).2 hf, h.layout ▸ hl, h.charset.trans hc, rfl, rfl⟩
  · rw [layout]
    exact h.layout
  · rw [fields]
    exact h.names

end Schema

/-! ## §3. Codecs. -/

namespace Codec

open Record

/-- A record that was written is the text of the binding, and the set has its
characters. -/
theorem writeText_of_encode {codec : Codec} {b : Binding} {s : String}
    (h : codec.encode b = .ok s) :
    codec.writeText b = .ok s.toList ∧ ∀ c ∈ s.toList, codec.charset.has c = true := by
  unfold encode at h
  cases hw : codec.writeText b with
  | error e => rw [hw] at h; cases h
  | ok cs =>
      cases hc : codec.charset.checkEncodable cs with
      | error e =>
          simp [hw, hc, bind, Except.bind] at h
      | ok =>
          have hs : String.ofList cs = s := by
            simpa [hw, hc, bind, Except.bind, pure, Except.pure] using h
          rw [← hs, String.toList_ofList]
          exact ⟨rfl, Charset.checkEncodable_eq_ok_iff.1 hc⟩

theorem decode_encode_text {codec : Codec} {cs : List Char}
    (h : ∀ c ∈ cs, codec.charset.has c = true) :
    codec.decode (codec.charset.encode cs) = codec.readText cs := by
  unfold decode
  rw [Charset.decode_encode_of_has h]
  rfl

/-- **A record with a line end says what the record says.**  Alone it does
unless it ends in a line feed, provided that it says something else without
its last one or two characters. -/
theorem decode_line {codec : Codec} {read : List Char → Except Failure Binding}
    {cs : List Char} {r : Binding}
    (hread : ∀ ds, codec.readText ds = read (stripLineEnd ds))
    (has : ∀ c ∈ cs, codec.charset.has c = true) (whole : read cs = .ok r)
    (cut : ∀ p x, cs = p ++ x → x ≠ [] → x.length ≤ 2 → read p ≠ .ok r) :
    codec.decode (codec.charset.encode (cs ++ ['\r', '\n'])) = .ok r ∧
      (codec.decode (codec.charset.encode cs) = .ok r ↔ cs.getLast? ≠ some '\n') := by
  refine ⟨?_, ?_⟩
  · rw [decode_encode_text (Charset.has_append_lineEnd has), hread, stripLineEnd_append_crlf]
    exact whole
  · rw [decode_encode_text has, hread]
    constructor
    · intro h hn
      obtain ⟨x, hcs, hx, len⟩ := stripLineEnd_of_getLast?_eq hn
      exact cut _ x hcs hx len h
    · intro h
      rw [stripLineEnd_of_getLast?_ne h]
      exact whole

end Codec

end Recordwise
