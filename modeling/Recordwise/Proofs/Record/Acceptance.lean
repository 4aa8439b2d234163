/-
  Recordwise.Proofs.Record.Acceptance
  ───────────────────────────────────
  **Which delimited records are read.**

  A record is read when its bytes are a text of the character set, no escape
  character is left without the character that it takes, and the delimiters
  that no escape covers make no more parts than there are fields.  Neither
  condition mentions a scan: an escape character covers what stands behind it
  when the run of escape characters that it ends is of odd length.  Main
  statements:

      decode_eq_ok_iff               — bytes decode to the text they encode
      splits                         — which texts split, into how many parts
      decode_delimited_characterized — which records are read, and the names
                                       that are bound
-/
import Recordwise.Proofs.Record.DelimitedRoundTrip
import Recordwise.Proofs.Record.Rejecting
import Recordwise.Proofs.Text.Utf8

namespace Recordwise

/-! ## §1. Bytes. -/

namespace Charset

/-- Whether bytes are those of a text of the character set. -/
def IsText (charset : Charset) (bytes : List UInt8) (cs : List Char) : Prop :=
  (∀ c ∈ cs, charset.has c = true) ∧ bytes = charset.encode cs

/-- **Bytes decode to the text that they encode**, and fail to when they
encode none. -/
theorem decode_eq_ok_iff {charset : Charset} {bytes : List UInt8} {cs : List Char} :
    charset.decode bytes = .ok cs ↔ charset.IsText bytes cs := by
  constructor
  · intro h
    cases charset with
    | utf8 =>
        have read : Text.Utf8.decode bytes = .ok cs := by
          unfold decode at h
          cases hd : Text.Utf8.decode bytes with
          | error f => rw [hd] at h; cases h
          | ok ds => rw [hd] at h; cases h; rfl
        exact ⟨fun _ _ => rfl, Text.Utf8.decode_eq_ok_iff.1 read⟩
    | latin1 =>
        cases h
        have byte (b : UInt8) : (Char.ofNat b.toNat).toNat = b.toNat :=
          Text.Utf8.toNat_ofNat_of_valid (.inl (by have := b.toNat_lt; omega))
        refine ⟨?_, ?_⟩
        · intro c hc
          obtain ⟨b, -, rfl⟩ := List.mem_map.1 hc
          have small := b.toNat_lt
          simp only [has, byte, decide_eq_true_eq]
          omega
        · unfold encode
          dsimp only
          rw [List.map_map]
          refine ((List.map_congr_left fun b _ => ?_).trans (List.map_id bytes)).symm
          show UInt8.ofNat (Char.ofNat b.toNat).toNat = b
          rw [byte, UInt8.ofNat_toNat]
  · rintro ⟨has, rfl⟩
    exact decode_encode_of_has has

end Charset

namespace Record

/-! ## §2. Runs of escape characters. -/

/-- The length of the run of escape characters that a text ends in. -/
def trailing (esc : Char) (cs : List Char) : Nat := (cs.reverse.takeWhile (· == esc)).length

/-- The number of delimiters with no run of odd length in front of them. -/
def uncovered (delimiter esc : Char) (cs : List Char) : Nat :=
  (List.range cs.length).countP fun i =>
    cs[i]? == some delimiter && trailing esc (cs.take i) % 2 == 0

/-- A character in front of a text lengthens the run at its end only if the
text is nothing but that run. -/
theorem trailing_cons (esc c : Char) (cs : List Char) :
    trailing esc (c :: cs) =
      if trailing esc cs = cs.length ∧ c = esc then trailing esc cs + 1 else trailing esc cs := by
  unfold trailing
  rw [List.reverse_cons, List.takeWhile_append, List.length_reverse]
  by_cases run : (cs.reverse.takeWhile (· == esc)).length = cs.length
  · have whole : cs.reverse.takeWhile (· == esc) = cs.reverse := by
      refine (List.takeWhile_prefix _).eq_of_length ?_
      rw [run, List.length_reverse]
    by_cases same : c = esc
    · simp [run, same]
    · simp [run, same]
  · simp [run]

theorem trailing_plain_cons {esc c : Char} (h : c ≠ esc) (cs : List Char) :
    trailing esc (c :: cs) = trailing esc cs := by
  rw [trailing_cons, if_neg fun both => h both.2]

theorem trailing_le_length (esc : Char) (cs : List Char) : trailing esc cs ≤ cs.length := by
  have within : (cs.reverse.takeWhile (· == esc)).length ≤ cs.reverse.length :=
    (List.takeWhile_prefix _).length_le
  rwa [List.length_reverse] at within

/-- An escape character and what it takes change no run's parity. -/
theorem trailing_pair (esc x : Char) (cs : List Char) :
    trailing esc (esc :: x :: cs) % 2 = trailing esc cs % 2 := by
  have inside := trailing_cons esc x cs
  have outside := trailing_cons esc esc (x :: cs)
  have bound := trailing_le_length esc cs
  rw [List.length_cons] at outside
  -- the run grows by both characters, or by neither
  by_cases run : trailing esc cs = cs.length
  · by_cases same : x = esc
    · rw [if_pos ⟨run, same⟩] at inside
      rw [if_pos ⟨by omega, rfl⟩] at outside
      omega
    · rw [if_neg fun both => same both.2] at inside
      rw [if_neg fun both => by omega] at outside
      omega
  · rw [if_neg fun both => run both.1] at inside
    rw [if_neg fun both => by omega] at outside
    omega

/-- The delimiters of a text behind a front that leaves all parities alone. -/
theorem uncovered_behind {delimiter esc : Char} (front : List Char)
    (parity : ∀ cs, trailing esc (front ++ cs) % 2 = trailing esc cs % 2) (cs : List Char) :
    ((List.range cs.length).countP fun i =>
        cs[i]? == some delimiter && trailing esc (front ++ cs.take i) % 2 == 0) =
      uncovered delimiter esc cs := by
  unfold uncovered
  simp only [parity]

theorem uncovered_cons (delimiter esc c : Char) (cs : List Char) :
    uncovered delimiter esc (c :: cs) = ((List.range cs.length).countP fun i =>
        cs[i]? == some delimiter && trailing esc (c :: cs.take i) % 2 == 0) +
      if c = delimiter then 1 else 0 := by
  unfold uncovered
  rw [List.length_cons, List.range_succ_eq_map, List.countP_cons, List.countP_map]
  congr 1
  by_cases same : c = delimiter
  · simp [same, trailing]
  · simp [same]

theorem uncovered_plain_cons {delimiter esc c : Char} (h : c ≠ esc) (cs : List Char) :
    uncovered delimiter esc (c :: cs) =
      uncovered delimiter esc cs + if c = delimiter then 1 else 0 := by
  rw [uncovered_cons]
  congr 1
  exact uncovered_behind [c] (fun ds => congrArg (· % 2) (trailing_plain_cons h ds)) cs

/-- What an escape character takes is no delimiter. -/
theorem uncovered_pair {delimiter esc : Char} (distinct : delimiter ≠ esc) (x : Char)
    (cs : List Char) : uncovered delimiter esc (esc :: x :: cs) = uncovered delimiter esc cs := by
  rw [uncovered_cons, if_neg distinct.symm, List.length_cons, List.range_succ_eq_map,
    List.countP_cons, List.countP_map]
  have covered : trailing esc [esc] = 1 := by simp [trailing]
  rw [if_neg (by simp [covered])]
  exact uncovered_behind [esc, x] (trailing_pair esc x) cs

/-! ## §3. Splitting. -/

theorem length_consHead (c : Char) {ps : List (List Char)} (ne : ps ≠ []) :
    (consHead c ps).length = ps.length := by
  cases ps with
  | nil => exact absurd rfl ne
  | cons p ps => rfl

/-- How a text splits, told without a scan: not at all when it ends in a run of
escape characters of odd length, else into one part more than it has delimiters
that are not covered. -/
inductive Splits (delimiter esc : Char) (cs : List Char) : Prop
  | dangling (odd : trailing esc cs % 2 = 1) (none : splitEscaped delimiter esc cs = none)
  | parts {ps : List (List Char)} (even : trailing esc cs % 2 = 0)
      (found : splitEscaped delimiter esc cs = some ps)
      (length : ps.length = uncovered delimiter esc cs + 1)

/-- A text behind a front that changes no parity splits as the text does, with
so many parts more as the front has delimiters. -/
theorem Splits.behind {delimiter esc : Char} {cs ds : List Char} (h : Splits delimiter esc cs)
    {f : List (List Char) → List (List Char)} (more : Nat)
    (split : splitEscaped delimiter esc ds = (splitEscaped delimiter esc cs).map f)
    (parity : trailing esc ds % 2 = trailing esc cs % 2)
    (count : uncovered delimiter esc ds = uncovered delimiter esc cs + more)
    (length : ∀ ps, ps ≠ [] → (f ps).length = ps.length + more) : Splits delimiter esc ds := by
  cases h with
  | dangling odd none => exact .dangling (by rw [parity, odd]) (by rw [split, none]; rfl)
  | parts even found counted =>
      refine .parts (by rw [parity, even]) (by rw [split, found]; rfl) ?_
      rw [length _ (splitEscaped_ne_nil found), counted, count]
      omega

/-- **A text splits unless an escape character dangles**, into one part more
than it has delimiters that are not covered. -/
theorem splits {delimiter esc : Char} (distinct : delimiter ≠ esc) (cs : List Char) :
    Splits delimiter esc cs := by
  -- along the scan, which passes one character or an escape with what it takes
  induction cs using splitEscaped.induct delimiter esc with
  | case1 => exact .parts rfl rfl rfl
  | case2 => exact .dangling (by simp [trailing]) (by rw [splitEscaped]; simp)
  | case3 x r ih =>
      exact ih.behind 0 (splitEscaped_esc_cons delimiter esc x r) (trailing_pair esc x r)
        (uncovered_pair distinct x r) fun ps ne => length_consHead x ne
  | case4 cs plain ih =>
      refine ih.behind 1 (splitEscaped_delimiter_cons distinct cs)
        (congrArg (· % 2) (trailing_plain_cons distinct cs)) ?_ fun ps _ => List.length_cons
      rw [uncovered_plain_cons distinct, if_pos rfl]
  | case5 c cs plain other ih =>
      refine ih.behind 0 (splitEscaped_plain_cons plain other cs)
        (congrArg (· % 2) (trailing_plain_cons plain cs)) ?_ fun ps ne => length_consHead c ne
      rw [uncovered_plain_cons plain, if_neg other]

/-! ## §4. Reading. -/

/-- A record is read when it is a text and that text is. -/
theorem decode_eq_ok_iff_of_delimited {codec : Codec} {delimiter esc : Char}
    (layout : codec.layout = .delimited delimiter esc) {bytes : List UInt8} {r : Binding} :
    codec.decode bytes = .ok r ↔ ∃ cs, codec.charset.IsText bytes cs ∧
      readDelimited delimiter esc codec.fields (stripLineEnd cs) = .ok r := by
  unfold Codec.decode
  rw [bind_eq_ok_iff]
  refine exists_congr fun cs => and_congr Charset.decode_eq_ok_iff ?_
  unfold Codec.readText
  rw [layout]

/-- Which texts are read, and what they bind. -/
theorem readDelimited_characterized {delimiter esc : Char} (distinct : delimiter ≠ esc)
    {fields : List Field} (names : (fields.map (·.name)).Nodup) (cs : List Char) :
    ((∃ r, readDelimited delimiter esc fields cs = .ok r) ↔
      trailing esc cs % 2 = 0 ∧ uncovered delimiter esc cs + 1 ≤ fields.length) ∧
    ∀ r, readDelimited delimiter esc fields cs = .ok r →
      r.names = (fields.map (·.name)).take (uncovered delimiter esc cs + 1) ∧
        ∀ p ∈ r.toList, ∃ s, p.2 = .text s := by
  cases splits distinct cs with
  | dangling odd none =>
      have refused : ∀ r, readDelimited delimiter esc fields cs ≠ .ok r := by
        intro r read
        obtain ⟨parts, split, -⟩ := readDelimited_eq_ok_iff.1 read
        rw [none] at split
        cases split
      refine ⟨⟨fun ⟨r, read⟩ => absurd read (refused r), fun ⟨even, _⟩ => ?_⟩,
        fun r read => absurd read (refused r)⟩
      omega
  | @parts ps even found length =>
      have accepts : ∀ r, readDelimited delimiter esc fields cs = .ok r ↔
          ps.length ≤ fields.length ∧ r = Binding.ofList (boundParts fields ps) := by
        intro r
        rw [readDelimited_eq_ok_iff]
        constructor
        · rintro ⟨parts, split, few, same⟩
          rw [found] at split
          cases split
          exact ⟨few, same⟩
        · rintro ⟨few, same⟩
          exact ⟨ps, found, few, same⟩
      have held : (Binding.ofList (boundParts fields ps)).toList = boundParts fields ps :=
        Binding.toList_ofList (names.sublist (names_boundParts_sublist fields ps))
      refine ⟨⟨fun ⟨r, read⟩ => ⟨even, length ▸ ((accepts r).1 read).1⟩,
        fun ⟨_, few⟩ => ⟨_, (accepts _).2 ⟨length ▸ few, rfl⟩⟩⟩, ?_⟩
      intro r read
      obtain ⟨-, rfl⟩ := (accepts r).1 read
      refine ⟨?_, ?_⟩
      · show (Binding.ofList (boundParts fields ps)).toList.map (·.1) = _
        rw [held, names_boundParts, length]
      · rw [held]
        intro p hp
        obtain ⟨q, -, rfl⟩ := List.mem_map.1 hp
        exact ⟨_, rfl⟩

/-- **Which delimited records are read, and what they bind.**  The bytes are a
text of the character set that, without a line end, does not end in a run of
escape characters of odd length and has no more delimiters that are not covered
than there are fields, less one.  The names bound are then the first fields',
one more than there are such delimiters, and each is bound to a text.  Any
other record is refused as one that cannot be decoded. -/
theorem decode_delimited_characterized {schema : Schema} {codec : Codec} {delimiter esc : Char}
    (accepted : schema.codec = .ok codec) (layout : schema.layout = .delimited delimiter esc)
    (bytes : List UInt8) :
    ((∃ r, codec.decode bytes = .ok r) ↔ ∃ cs, codec.charset.IsText bytes cs ∧
      trailing esc (stripLineEnd cs) % 2 = 0 ∧
      uncovered delimiter esc (stripLineEnd cs) + 1 ≤ schema.fields.length) ∧
    (∀ r cs, codec.decode bytes = .ok r → codec.charset.IsText bytes cs →
      r.names = (schema.fields.map (·.name)).take
        (uncovered delimiter esc (stripLineEnd cs) + 1) ∧
      ∀ p ∈ r.toList, ∃ s, p.2 = .text s) ∧
    ∀ f, codec.decode bytes = .error f → f.IsDecode := by
  obtain ⟨names, differ, -, same, fields⟩ := Schema.codec_eq_ok_iff.1 accepted
  have distinct : delimiter ≠ esc := by
    intro equal
    rw [layout, Schema.checkLayout, if_pos equal] at differ
    cases differ
  have nodup : (codec.fields.map (·.name)).Nodup := by
    rw [fields]
    exact (Schema.checkFields_eq_ok_iff.1 names).2
  have reading (r : Binding) : codec.decode bytes = .ok r ↔ ∃ cs, codec.charset.IsText bytes cs ∧
      readDelimited delimiter esc codec.fields (stripLineEnd cs) = .ok r :=
    decode_eq_ok_iff_of_delimited (same.trans layout)
  have text (cs : List Char) := readDelimited_characterized distinct nodup (stripLineEnd cs)
  rw [← fields]
  refine ⟨⟨?_, ?_⟩, ?_, Codec.decode_failsWith codec bytes⟩
  · rintro ⟨r, read⟩
    obtain ⟨cs, encoded, accepts⟩ := (reading r).1 read
    exact ⟨cs, encoded, (text cs).1.1 ⟨r, accepts⟩⟩
  · rintro ⟨cs, encoded, conditions⟩
    obtain ⟨r, accepts⟩ := (text cs).1.2 conditions
    exact ⟨r, (reading r).2 ⟨cs, encoded, accepts⟩⟩
  · intro r cs read encoded
    obtain ⟨ds, encoded', accepts⟩ := (reading r).1 read
    -- the bytes are those of one text only
    obtain rfl : ds = cs := by
      have one := Charset.decode_eq_ok_iff.2 encoded'
      rw [Charset.decode_eq_ok_iff.2 encoded] at one
      exact (Except.ok.inj one).symm
    exact (text ds).2 r accepts

/-- Where the delimiter is the line feed and the escape character the carriage
return: of two line feeds the last is the line end, and the other is behind a
run of two escape characters. -/
theorem decode_delimited_lineEnd :
    ∃ r, Codec.decode ⟨.latin1, (lineEndSchema "latin1").layout, (lineEndSchema "latin1").fields⟩
        [0xE9, 0x0D, 0x0D, 0x0A, 0x0A] = .ok r ∧ r.names = ["a", "b"] := by
  have accepted : (lineEndSchema "latin1").codec =
      .ok ⟨.latin1, (lineEndSchema "latin1").layout, (lineEndSchema "latin1").fields⟩ := rfl
  have reads := decode_delimited_characterized accepted rfl [0xE9, 0x0D, 0x0D, 0x0A, 0x0A]
  have encoded : Charset.latin1.IsText [0xE9, 0x0D, 0x0D, 0x0A, 0x0A]
      ['é', '\r', '\r', '\n', '\n'] := ⟨List.all_eq_true.1 rfl, rfl⟩
  obtain ⟨r, read⟩ := reads.1.2 ⟨_, encoded, by decide, by decide⟩
  exact ⟨r, read, (reads.2.1 r _ read encoded).1⟩

end Record

end Recordwise
