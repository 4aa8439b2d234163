/-
  Recordwise.Text.CaseMapping
  ───────────────────────────
  **Upper and lower case of a text, without a locale.**

  Every character maps on its own, to one or more characters, by the tables
  of `Recordwise.Text.CaseTable`.  One rule looks at the neighbours: the
  capital sigma `Σ` becomes `ς` at the end of a word and `σ` elsewhere, where
  the end of a word means that, case-ignorable characters apart, a cased
  character stands before it and none after it.  Main statements:

      upperChar_length_pos — no character disappears
      asciiLower_of_ascii  — the ASCII mapping changes ASCII letters only
-/
import Recordwise.Text.CaseTable

namespace Recordwise.Text

/-! ## §1. Looking up the tables. -/

/-- Where the run sends code point `n`, if `n` is one of its members. -/
def CaseRun.map? (r : CaseRun) (n : Nat) : Option Nat :=
  if r.first ≤ n ∧ n ≤ r.last ∧ (n - r.first) % r.step = 0 then
    some ((n : Int) + r.shift).toNat
  else none

/-- Whether a code point lies in one of the spans. -/
def inSpans (spans : List (Nat × Nat)) (n : Nat) : Bool :=
  spans.any fun s => s.1 ≤ n && n ≤ s.2

/-- The image of `c` under a mapping given by runs and specials. -/
def mapChar (runs : List CaseRun) (specials : List (Nat × List Nat)) (c : Char) : List Char :=
  match runs.findSome? (·.map? c.toNat) with
  | some n => [Char.ofNat n]
  | none =>
    match specials.find? (·.1 == c.toNat) with
    | some (_, n :: ns) => (n :: ns).map Char.ofNat
    | _ => [c]

/-- The upper case of one character. -/
def upperChar (c : Char) : List Char := mapChar upperRuns upperSpecials c

/-- The lower case of one character, whatever stands around it. -/
def lowerChar (c : Char) : List Char := mapChar lowerRuns lowerSpecials c

/-- Whether a character has a case. -/
def isCased (c : Char) : Bool := inSpans casedSpans c.toNat

/-- Whether a case context skips a character. -/
def isCaseIgnorable (c : Char) : Bool := inSpans ignorableSpans c.toNat

theorem mapChar_length_pos (runs : List CaseRun) (specials : List (Nat × List Nat)) (c : Char) :
    0 < (mapChar runs specials c).length := by
  unfold mapChar
  split
  · simp
  · split <;> simp

theorem upperChar_length_pos (c : Char) : 0 < (upperChar c).length :=
  mapChar_length_pos _ _ c

/-! ## §2. Whole texts. -/

/-- Whether the nearest character that a case context does not skip is
cased. -/
def meetsCased (cs : List Char) : Bool :=
  match cs.dropWhile isCaseIgnorable with
  | c :: _ => isCased c
  | [] => false

/-- The upper case of a text. -/
def upper (cs : List Char) : List Char := cs.flatMap upperChar

/-- The lower case of a text. -/
def lower (cs : List Char) : List Char := go [] cs
where
  /-- `before` holds the characters already passed, the nearest first. -/
  go (before : List Char) : List Char → List Char
    | [] => []
    | c :: rest =>
      (if c = 'Σ' then
        (if meetsCased before && !meetsCased rest then ['ς'] else ['σ'])
      else lowerChar c) ++ go (c :: before) rest

/-! ## §3. ASCII case. -/

/-- Lower case of the ASCII letters, all else unchanged. -/
def asciiLower (c : Char) : Char :=
  if 'A' ≤ c ∧ c ≤ 'Z' then Char.ofNat (c.toNat + 32) else c

/-- Upper case of the ASCII letters, all else unchanged. -/
def asciiUpper (c : Char) : Char :=
  if 'a' ≤ c ∧ c ≤ 'z' then Char.ofNat (c.toNat - 32) else c

/-- Lower case of the ASCII letters of a string. -/
def asciiLowered (s : String) : String := String.ofList (s.toList.map asciiLower)

/-- Upper case of the ASCII letters of a string. -/
def asciiUppered (s : String) : String := String.ofList (s.toList.map asciiUpper)

/-- A character that is no ASCII capital is its own ASCII lower case. -/
theorem asciiLower_of_ascii {c : Char} (h : ¬ ('A' ≤ c ∧ c ≤ 'Z')) : asciiLower c = c :=
  if_neg h

end Recordwise.Text
