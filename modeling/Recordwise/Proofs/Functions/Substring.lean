/-
  Recordwise.Proofs.Functions.Substring
  ─────────────────────────────────────
  **Substrings, and the machine words they are found with.**

  A substring is what stands behind a place of the text, all of it or up to a
  length.  Its start is a signed word of 64 bits, counted from the front or from
  the end, and its length may be as great as a word.  The sums and differences
  that lead to the two ends of the range are taken here on words, each step
  refused where it leaves its word, and none of them ever is.  Main statements:

      slice_join               — consecutive parts are the whole text
      length_slice             — how many characters a part has
      sliceInWords?_eq         — on words no step fails, and the part is the same
      substringInWords?_eq     — nor does any step of the function
      substring_characterized  — the parts that calls give
-/
import Mathlib.Algebra.Group.Int.Defs
import Mathlib.Algebra.Group.Nat.Defs
import Recordwise.Builtin

namespace Recordwise.Text

open Functions (beginning slice)

/-! ## §1. Places. -/

theorem beginning_of_pos {count : Nat} {start : Int} (h : 0 < start) :
    beginning count start = (start - 1).toNat := if_pos h

theorem beginning_of_neg {count : Nat} {start : Int} (h : start < 0) :
    beginning count start = (count + start).toNat := by
  unfold beginning
  rw [if_neg (by omega), if_pos h]

/-- **A start from the end is one from the front**, the first at the least. -/
theorem beginning_fromEnd {count : Nat} {start front : Int} (h : start < 0)
    (same : front = max (count + start) 0 + 1) : beginning count start = beginning count front := by
  rw [beginning_of_neg h, beginning_of_pos (by omega)]
  omega

/-! ## §2. Parts of a text. -/

section Parts

variable (cs : List Char)

/-- **Consecutive parts are the whole text.** -/
theorem slice_join {i k : Int} (first : 1 ≤ i) (len : 0 ≤ k) :
    slice cs 1 (some (i - 1).toNat) ++ slice cs i (some k.toNat) ++ slice cs (i + k) none = cs := by
  have behind : (i + k - 1).toNat = (i - 1).toNat + k.toNat := by omega
  unfold slice
  rw [beginning_of_pos (by omega), beginning_of_pos (by omega), beginning_of_pos (by omega), behind]
  show (cs.drop 0).take _ ++ (cs.drop _).take _ ++ cs.drop _ = cs
  rw [List.drop_zero, List.append_assoc, ← List.drop_drop, List.take_append_drop,
    List.take_append_drop]

/-- **How many characters a part has**: as many as are wanted, or as there
are. -/
theorem length_slice {i k : Int} (first : 1 ≤ i) (last : i ≤ cs.length + 1) (len : 0 ≤ k) :
    ((slice cs i (some k.toNat)).length : Int) = min k (cs.length - i + 1) := by
  unfold slice
  rw [beginning_of_pos (by omega)]
  show (((cs.drop (i - 1).toNat).take k.toNat).length : Int) = _
  rw [List.length_take, List.length_drop]
  omega

/-- Behind the text there is nothing. -/
theorem slice_of_length_le {start : Int} (beyond : cs.length ≤ beginning cs.length start)
    (len? : Option Nat) : slice cs start len? = [] := by
  unfold slice
  rw [List.drop_eq_nil_of_le beyond]
  cases len? with
  | none => rfl
  | some len => exact List.take_nil

end Parts

/-! ## §3. Words. -/

/-- A difference of signed words, if it is one. -/
def minus? (a b : Int64) : Option Int64 :=
  if (a - b).toInt = a.toInt - b.toInt then some (a - b) else none

/-- A sum of signed words, if it is one. -/
def plus? (a b : Int64) : Option Int64 :=
  if (a + b).toInt = a.toInt + b.toInt then some (a + b) else none

/-- A sum of unsigned words, if it is one. -/
def plusUnsigned? (a b : UInt64) : Option UInt64 :=
  if (a + b).toNat = a.toNat + b.toNat then some (a + b) else none

/-- The characters from one place up to another, if these are places of the
text in this order. -/
def between? (cs : List Char) (first last : Nat) : Option (List Char) :=
  if first ≤ last ∧ last ≤ cs.length then some ((cs.drop first).take (last - first)) else none

/-- The place where a part begins, on signed words. -/
def beginningInWords? (count start : Int64) : Option Int64 :=
  if 0 < start.toInt then minus? start 1
  else if start.toInt < 0 then
    (plus? count start).map fun place => if place.toInt < 0 then 0 else place
  else some 0

/-- The place where a part ends, on unsigned words. -/
def endInWords? (count first : UInt64) : Option Int64 → Option UInt64
  | none => some count
  | some len =>
    (plusUnsigned? first len.toUInt64).map fun place =>
      if place.toNat < count.toNat then place else count

/-- The characters from a start on, all or a number of them, found on words. -/
def sliceInWords? (cs : List Char) (start : Int64) (len? : Option Int64) : Option (List Char) :=
  let count := Int64.ofNat cs.length
  (beginningInWords? count start).bind fun first =>
    if count.toInt ≤ first.toInt then some []
    else (endInWords? count.toUInt64 first.toUInt64 len?).bind fun last =>
      between? cs first.toUInt64.toNat last.toNat

section Words

theorem toNat_toUInt64 {a : Int64} (h : 0 ≤ a.toInt) : a.toUInt64.toNat = a.toInt.toNat :=
  Int64.toNat_toUInt64_of_le (Int64.le_iff_toInt_le.2 h)

theorem exists_minus? {a b : Int64} (low : -2 ^ 63 ≤ a.toInt - b.toInt)
    (high : a.toInt - b.toInt < 2 ^ 63) :
    ∃ w, minus? a b = some w ∧ w.toInt = a.toInt - b.toInt := by
  have exact : (a - b).toInt = a.toInt - b.toInt := by
    rw [Int64.toInt_sub]
    exact Int.bmod_eq_of_le (by omega) (by omega)
  exact ⟨a - b, if_pos exact, exact⟩

theorem exists_plus? {a b : Int64} (low : -2 ^ 63 ≤ a.toInt + b.toInt)
    (high : a.toInt + b.toInt < 2 ^ 63) :
    ∃ w, plus? a b = some w ∧ w.toInt = a.toInt + b.toInt := by
  have exact : (a + b).toInt = a.toInt + b.toInt := by
    rw [Int64.toInt_add]
    exact Int.bmod_eq_of_le (by omega) (by omega)
  exact ⟨a + b, if_pos exact, exact⟩

theorem exists_plusUnsigned? {a b : UInt64} (high : a.toNat + b.toNat < 2 ^ 64) :
    ∃ w, plusUnsigned? a b = some w ∧ w.toNat = a.toNat + b.toNat := by
  have exact : (a + b).toNat = a.toNat + b.toNat := by
    rw [UInt64.toNat_add]
    exact Nat.mod_eq_of_lt high
  exact ⟨a + b, if_pos exact, exact⟩

/-- **The place of the beginning is a word.** -/
theorem exists_beginningInWords? {count : Int64} (h : 0 ≤ count.toInt) (start : Int64) :
    ∃ first, beginningInWords? count start = some first ∧
      first.toInt = beginning count.toInt.toNat start.toInt := by
  have lowest := start.le_toInt
  have highest := start.toInt_lt
  have largest := count.toInt_lt
  unfold beginningInWords?
  by_cases pos : 0 < start.toInt
  · -- a start from the front is lowered by one
    have one : (1 : Int64).toInt = 1 := rfl
    obtain ⟨place, found, exact⟩ : ∃ w, minus? start 1 = some w ∧ w.toInt = start.toInt - 1 :=
      exists_minus? (by omega) (by omega)
    rw [if_pos pos, beginning_of_pos pos]
    exact ⟨place, found, by omega⟩
  · rw [if_neg pos]
    by_cases neg : start.toInt < 0
    · -- a start from the end is added to the count, which is not negative
      obtain ⟨place, found, exact⟩ := exists_plus? (a := count) (b := start) (by omega) (by omega)
      rw [if_pos neg, found, beginning_of_neg neg]
      refine ⟨if place.toInt < 0 then 0 else place, rfl, ?_⟩
      split
      · show (0 : Int) = _
        omega
      · omega
    · have zero : start.toInt = 0 := by omega
      rw [if_neg neg, zero]
      exact ⟨0, rfl, rfl⟩

/-- **The place of the end is a word.** -/
theorem exists_endInWords? (count first : UInt64) (fits : first.toNat < 2 ^ 63)
    {len? : Option Int64} (len : ∀ k ∈ len?, 0 ≤ k.toInt) :
    ∃ last, endInWords? count first len? = some last ∧
      last.toNat = (len?.map fun k => min (first.toNat + k.toInt.toNat) count.toNat).getD
        count.toNat := by
  cases len? with
  | none => exact ⟨count, rfl, rfl⟩
  | some k =>
    have nonneg : 0 ≤ k.toInt := len k rfl
    have highest := k.toInt_lt
    have unsigned := toNat_toUInt64 nonneg
    obtain ⟨place, found, exact⟩ :=
      exists_plusUnsigned? (a := first) (b := k.toUInt64) (by omega)
    unfold endInWords?
    dsimp only
    rw [found]
    refine ⟨if place.toNat < count.toNat then place else count, rfl, ?_⟩
    show _ = min (first.toNat + k.toInt.toNat) count.toNat
    split
    · omega
    · omega

/-- The characters between the two ends of a part are the part. -/
theorem between?_eq {cs : List Char} {first : Nat} (inside : first ≤ cs.length) (len? : Option Nat) :
    between? cs first ((len?.map fun k => min (first + k) cs.length).getD cs.length) =
      some (match len? with
        | some k => (cs.drop first).take k
        | none => cs.drop first) := by
  unfold between?
  cases len? with
  | none =>
    show (if first ≤ cs.length ∧ cs.length ≤ cs.length then
      some ((cs.drop first).take (cs.length - first)) else none) = _
    rw [if_pos ⟨inside, Nat.le_refl _⟩, List.take_of_length_le (Nat.le_of_eq List.length_drop)]
  | some k =>
    show (if first ≤ min (first + k) cs.length ∧ min (first + k) cs.length ≤ cs.length then
      some ((cs.drop first).take (min (first + k) cs.length - first)) else none) = _
    have wanted : min (first + k) cs.length - first = min k (cs.drop first).length := by
      rw [List.length_drop]
      omega
    rw [if_pos (by omega), wanted, ← List.take_eq_take_min]

/-- **On words no step fails**, and the part that they lead to is the same. -/
theorem sliceInWords?_eq {cs : List Char} (fits : cs.length < 2 ^ 63) (start : Int64)
    {len? : Option Int64} (len : ∀ k ∈ len?, 0 ≤ k.toInt) :
    sliceInWords? cs start len? =
      some (slice cs start.toInt (len?.map fun k => k.toInt.toNat)) := by
  have counted : (Int64.ofNat cs.length).toInt = cs.length := Int64.toInt_ofNat_of_lt fits
  have nonneg : 0 ≤ (Int64.ofNat cs.length).toInt := by omega
  obtain ⟨first, began, place⟩ := exists_beginningInWords? nonneg start
  rw [counted, Int.toNat_natCast] at place
  unfold sliceInWords?
  dsimp only
  rw [began, Option.bind_some, counted]
  by_cases beyond : (cs.length : Int) ≤ first.toInt
  · rw [if_pos beyond, slice_of_length_le cs (by omega)]
  · have unsigned : first.toUInt64.toNat = beginning cs.length start.toInt := by
      rw [toNat_toUInt64 (by omega), place, Int.toNat_natCast]
    have whole : (Int64.ofNat cs.length).toUInt64.toNat = cs.length := by
      rw [toNat_toUInt64 nonneg, counted, Int.toNat_natCast]
    obtain ⟨last, ended, stop⟩ :=
      exists_endInWords? (Int64.ofNat cs.length).toUInt64 first.toUInt64 (by omega) len
    rw [if_neg beyond, ended, Option.bind_some, stop, unsigned, whole]
    have inside : beginning cs.length start.toInt ≤ cs.length := by omega
    have same := between?_eq inside (len?.map fun k => k.toInt.toNat)
    rw [Option.map_map] at same
    exact same

end Words

end Recordwise.Text

namespace Recordwise.Functions

/-! ## §4. The function. -/

/-- The refusal of a negative length. -/
def negativeLength (len : Int64) : Failure :=
  .value "substring" ("length must not be negative, got "
    ++ String.ofList (Decimal.intText len.toInt))

/-- The arguments of `substring`: a text, a start and perhaps a length. -/
def substringArgs (s : String) (start : Int64) (len? : Option Int64) : List Value :=
  .text s :: .integer start :: (len?.map Value.integer).toList

/-- What `substring` gives of a text and integers, found on words. -/
def substringInWords? (s : String) (start : Int64) (len? : Option Int64) :
    Option (Except Failure Value) :=
  match len? with
  | none => (Text.sliceInWords? s.toList start none).map fun cs => .ok (.text (String.ofList cs))
  | some len =>
    if len.toInt < 0 then some (.error (negativeLength len))
    else (Text.sliceInWords? s.toList start (some len)).map fun cs =>
      .ok (.text (String.ofList cs))

section Function

variable (s : String) (start : Int64)

theorem substring_toEnd :
    substring (substringArgs s start none) =
      .ok (.text (String.ofList (slice s.toList start.toInt none))) := rfl

theorem substring_of_neg {len : Int64} (h : len.toInt < 0) :
    substring (substringArgs s start (some len)) = .error (negativeLength len) := by
  show (if len.toInt < 0 then throw (negativeLength len) else pure _ : Except Failure Value) = _
  rw [if_pos h]
  rfl

theorem substring_of_nonneg {len : Int64} (h : 0 ≤ len.toInt) :
    substring (substringArgs s start (some len)) =
      .ok (.text (String.ofList (slice s.toList start.toInt (some len.toInt.toNat)))) := by
  show (if len.toInt < 0 then throw (negativeLength len) else pure _ : Except Failure Value) = _
  rw [if_neg (by omega)]
  rfl

/-- **On words no step of the function fails**: of any text, start and length it
gives what it gives on numbers without bounds. -/
theorem substringInWords?_eq {s : String} (fits : s.length < 2 ^ 63) (len? : Option Int64) :
    substringInWords? s start len? = some (substring (substringArgs s start len?)) := by
  rw [← String.length_toList] at fits
  unfold substringInWords?
  cases len? with
  | none =>
    dsimp only
    rw [Text.sliceInWords?_eq fits start (by rintro k ⟨⟩), substring_toEnd]
    rfl
  | some len =>
    dsimp only
    by_cases neg : len.toInt < 0
    · rw [if_pos neg, substring_of_neg s start neg]
    · have nonneg : 0 ≤ len.toInt := by omega
      rw [if_neg neg, Text.sliceInWords?_eq fits start (by rintro k ⟨⟩; exact nonneg),
        substring_of_nonneg s start nonneg]
      rfl

/-- How a length is read, and what is given then. -/
theorem substring_withLength (len : Value) (rest : List Value) :
    substring (.text s :: .integer start :: len :: rest) =
      (integerArg "substring" [.text s, .integer start, len] 2 >>= fun
        | some k =>
          if k.toInt < 0 then throw (negativeLength k)
          else pure (.text (String.ofList (slice s.toList start.toInt (some k.toInt.toNat))))
        | none => pure .null) := by
  have long : 2 < (Value.text s :: .integer start :: len :: rest).length := by
    simp only [List.length_cons]
    omega
  have read : integerArg "substring" (.text s :: .integer start :: len :: rest) 2
      = integerArg "substring" [.text s, .integer start, len] 2 := rfl
  unfold substring
  simp only [if_pos long, read]
  cases integerArg "substring" [.text s, .integer start, len] 2 with
  | error e => rfl
  | ok len? => cases len? <;> rfl

/-- **Starts of one place give the same**, whatever stands behind them. -/
theorem substring_congr {a b : Int64}
    (same : beginning s.toList.length a.toInt = beginning s.toList.length b.toInt)
    (rest : List Value) :
    substring (.text s :: .integer a :: rest) = substring (.text s :: .integer b :: rest) := by
  have parts : slice s.toList a.toInt = slice s.toList b.toInt := by
    funext len?
    unfold slice
    rw [same]
  cases rest with
  | nil =>
    show Except.ok (Value.text (String.ofList (slice s.toList a.toInt none))) = _
    rw [parts]
    rfl
  | cons len rest =>
    rw [substring_withLength, substring_withLength, parts]
    rfl

end Function

end Recordwise.Functions

namespace Recordwise

open Builtin (call)
open Functions (substringArgs substringInWords?)

/-! ## §5. Calls. -/

theorem call_substring (ctx : Context) (u v : Value) (len? : Option Value) :
    call ctx "substring" (u :: v :: len?.toList) =
      Eval.ofExcept (Functions.substring (u :: v :: len?.toList)) := by
  cases len? with
  | none =>
    have two : Builtin.check "substring" [u, v].length = .ok .substring := rfl
    exact Builtin.call_of_check two ctx
  | some len =>
    have three : Builtin.check "substring" [u, v, len].length = .ok .substring := rfl
    exact Builtin.call_of_check three ctx

theorem call_substring_integers (ctx : Context) (s : String) (start : Int64)
    (len? : Option Int64) :
    call ctx "substring" (substringArgs s start len?) =
      Eval.ofExcept (Functions.substring (substringArgs s start len?)) :=
  call_substring ctx _ _ (len?.map Value.integer)

/-- Three texts one behind the other. -/
theorem call_concat_texts (ctx : Context) (a b c : String) :
    call ctx "concat" [.text a, .text b, .text c] = pure (.text (a ++ b ++ c)) := by
  have joined : String.join [a, b, c] = a ++ b ++ c := by simp [String.append_assoc]
  rw [← joined]
  exact Builtin.call_of_check (b := .concat) rfl ctx

section Calls

variable (ctx : Context) (s : String)

/-- A part up to the end. -/
theorem call_substring_toEnd (start : Int64) :
    call ctx "substring" (substringArgs s start none) =
      pure (.text (String.ofList (Functions.slice s.toList start.toInt none))) := by
  rw [call_substring_integers, Functions.substring_toEnd]
  rfl

/-- A part with a length. -/
theorem call_substring_of_nonneg (start : Int64) {len : Int64} (h : 0 ≤ len.toInt) :
    call ctx "substring" (substringArgs s start (some len)) =
      pure (.text (String.ofList
        (Functions.slice s.toList start.toInt (some len.toInt.toNat)))) := by
  rw [call_substring_integers, Functions.substring_of_nonneg s start h]
  rfl

/-- Starts of one place give the same, with or without a length. -/
theorem call_substring_congr {a b : Int64}
    (same : Functions.beginning s.length a.toInt = Functions.beginning s.length b.toInt)
    (len? : Option Value) :
    call ctx "substring" (.text s :: .integer a :: len?.toList) =
      call ctx "substring" (.text s :: .integer b :: len?.toList) := by
  rw [← String.length_toList] at same
  rw [call_substring, call_substring, Functions.substring_congr s same]

/-- Behind the text there is nothing. -/
theorem call_substring_beyond {start : Int64} (beyond : (s.length : Int) < start.toInt)
    {len? : Option Int64} (len : ∀ k ∈ len?, 0 ≤ k.toInt) :
    call ctx "substring" (substringArgs s start len?) = pure (.text "") := by
  have behind : s.toList.length ≤ Functions.beginning s.toList.length start.toInt := by
    rw [Text.beginning_of_pos (by omega), String.length_toList]
    omega
  cases len? with
  | none =>
    rw [call_substring_toEnd, Text.slice_of_length_le _ behind]
  | some k =>
    rw [call_substring_of_nonneg ctx s start (len k rfl), Text.slice_of_length_le _ behind]

/-- **The parts of a text that calls give**: on machine words no step fails;
consecutive parts are the whole text, and each has as many characters as are
wanted or there are; a start from the end is one from the front, zero is one,
and behind the text there is nothing. -/
theorem substring_characterized :
    (s.length < 2 ^ 63 → ∀ (start : Int64) (len? : Option Int64), ∃ r,
      substringInWords? s start len? = some r ∧
        call ctx "substring" (substringArgs s start len?) = Eval.ofExcept r) ∧
    (∀ i k : Int64, 1 ≤ i.toInt → i.toInt ≤ s.length + 1 → 0 ≤ k.toInt →
      ∃ part, call ctx "substring" (substringArgs s i (some k)) = pure (.text part) ∧
        (part.length : Int) = min k.toInt (s.length - i.toInt + 1) ∧
        ∀ j : Int64, j.toInt = i.toInt + k.toInt →
          ∃ front rest,
            call ctx "substring" (substringArgs s 1 (some (i - 1))) = pure (.text front) ∧
            call ctx "substring" (substringArgs s j none) = pure (.text rest) ∧
            call ctx "concat" [.text front, .text part, .text rest] = pure (.text s)) ∧
    (∀ a b : Int64, a.toInt < 0 → b.toInt = max (s.length + a.toInt) 0 + 1 →
      ∀ len? : Option Value, call ctx "substring" (.text s :: .integer a :: len?.toList) =
        call ctx "substring" (.text s :: .integer b :: len?.toList)) ∧
    (∀ len? : Option Value, call ctx "substring" (.text s :: .integer 0 :: len?.toList) =
      call ctx "substring" (.text s :: .integer 1 :: len?.toList)) ∧
    ∀ start : Int64, s.length < start.toInt → ∀ len? : Option Int64, (∀ k ∈ len?, 0 ≤ k.toInt) →
      call ctx "substring" (substringArgs s start len?) = pure (.text "") := by
  refine ⟨?_, ?_, ?_, ?_, ?_⟩
  · intro fits start len?
    exact ⟨_, Functions.substringInWords?_eq start fits len?, call_substring_integers ctx s start len?⟩
  · intro i k first last len
    have ends : i.toInt ≤ s.toList.length + 1 := by rwa [String.length_toList]
    refine ⟨_, call_substring_of_nonneg ctx s i len, ?_, ?_⟩
    · rw [String.length_ofList, Text.length_slice _ first ends len, String.length_toList]
    · intro j next
      have before : (i - 1).toInt = i.toInt - 1 := by
        have highest := i.toInt_lt
        have one : (1 : Int64).toInt = 1 := rfl
        rw [Int64.toInt_sub, one]
        exact Int.bmod_eq_of_le (by omega) (by omega)
      have whole := Text.slice_join s.toList first len
      rw [← before, ← next] at whole
      refine ⟨_, _, call_substring_of_nonneg ctx s 1 (by omega), call_substring_toEnd ctx s j, ?_⟩
      rw [call_concat_texts, ← String.ofList_append, ← String.ofList_append]
      show pure (Value.text (String.ofList (Functions.slice s.toList 1 _ ++ _ ++ _))) = _
      rw [whole, String.ofList_toList]
  · intro a b neg same len?
    exact call_substring_congr ctx s (Text.beginning_fromEnd neg same) len?
  · exact call_substring_congr ctx s rfl
  · intro start beyond len? len
    exact call_substring_beyond ctx s beyond len

end Calls

/-- The least start and the greatest length, on a text of four characters. -/
theorem substring_characterized_extremes :
    ("añb😀".length < 2 ^ 63 ∧ ∃ r,
      substringInWords? "añb😀" Int64.minValue (some Int64.maxValue) = some r ∧
        call ⟨Zone.utc, []⟩ "substring" (substringArgs "añb😀" Int64.minValue (some Int64.maxValue))
          = Eval.ofExcept r) ∧
    (1 ≤ (3 : Int64).toInt ∧ (3 : Int64).toInt ≤ "añb😀".length + 1 ∧
      0 ≤ (9223372036854775804 : Int64).toInt ∧
      Int64.maxValue.toInt = (3 : Int64).toInt + (9223372036854775804 : Int64).toInt ∧
      ∃ front part rest,
        call ⟨Zone.utc, []⟩ "substring" (substringArgs "añb😀" 1 (some (3 - 1)))
          = pure (.text front) ∧
        call ⟨Zone.utc, []⟩ "substring" (substringArgs "añb😀" 3 (some 9223372036854775804))
          = pure (.text part) ∧
        (part.length : Int) = 2 ∧
        call ⟨Zone.utc, []⟩ "substring" (substringArgs "añb😀" Int64.maxValue none)
          = pure (.text rest) ∧
        call ⟨Zone.utc, []⟩ "concat" [.text front, .text part, .text rest]
          = pure (.text "añb😀")) ∧
    (Int64.minValue.toInt < 0 ∧
      (1 : Int64).toInt = max ("añb😀".length + Int64.minValue.toInt) 0 + 1 ∧
      call ⟨Zone.utc, []⟩ "substring" [.text "añb😀", .integer Int64.minValue, .text "2"] =
        call ⟨Zone.utc, []⟩ "substring" [.text "añb😀", .integer 1, .text "2"]) ∧
    ("añb😀".length < (5 : Int64).toInt ∧ 0 ≤ (1 : Int64).toInt ∧
      call ⟨Zone.utc, []⟩ "substring" (substringArgs "añb😀" 5 (some 1)) = pure (.text "")) := by
  obtain ⟨words, parts, fromEnd, -, beyond⟩ := substring_characterized ⟨Zone.utc, []⟩ "añb😀"
  have first : 1 ≤ (3 : Int64).toInt := by decide
  have last : (3 : Int64).toInt ≤ "añb😀".length + 1 := by decide
  have len : 0 ≤ (9223372036854775804 : Int64).toInt := by decide
  have next : Int64.maxValue.toInt = (3 : Int64).toInt + (9223372036854775804 : Int64).toInt := by
    decide
  obtain ⟨part, given, count, joined⟩ := parts 3 9223372036854775804 first last len
  obtain ⟨front, rest, before, behind, whole⟩ := joined Int64.maxValue next
  refine ⟨⟨by decide, words (by decide) _ _⟩,
    ⟨first, last, len, next, front, part, rest, before, given, ?_, behind, whole⟩,
    ⟨by decide, by decide, fromEnd Int64.minValue 1 (by decide) (by decide) (some (.text "2"))⟩,
    by decide, by decide, beyond 5 (by decide) (some 1) (by rintro k ⟨⟩; decide)⟩
  rw [count]
  decide

end Recordwise
