/-
  Recordwise.Document.Json
  ────────────────────────
  **Documents in JSON.**

  The reader is strict: four blank characters, no comments, no control
  character inside a string, no zeros before a number, nothing behind the
  document.  Three things that the grammar allows have no value: half of a
  surrogate pair on its own, a number out of range, and a list or object
  inside more than 126 others.  They are kept as `invalid`, so that they can
  be passed over where nobody asks for them.  Main statement:

      joinUnits?_scalar — a character that is its own unit is kept
-/
import Recordwise.Document.Json.Number

namespace Recordwise.Document.Json

/-! ## §1. Strings. -/

/-- Whether a character may stand between the parts of a document. -/
def isBlank (c : Char) : Bool := c == ' ' || c == '\n' || c == '\t' || c == '\r'

/-- Drop the blanks in front. -/
def skipBlank (cs : List Char) : List Char := cs.dropWhile isBlank

/-- The value of a hexadecimal digit. -/
def hexDigit? (c : Char) : Option Nat :=
  if '0' ≤ c ∧ c ≤ '9' then some (c.toNat - 48)
  else if 'a' ≤ c ∧ c ≤ 'f' then some (c.toNat - 87)
  else if 'A' ≤ c ∧ c ≤ 'F' then some (c.toNat - 55)
  else none

/-- The number that hexadecimal digits denote. -/
def hex? (cs : List Char) : Option Nat :=
  (cs.mapM hexDigit?).map fun ds => ds.foldl (fun n d => n * 16 + d) 0

/-- The code that a backslash and a letter stand for. -/
def escaped? (c : Char) : Option Nat :=
  if c = '"' ∨ c = '\\' ∨ c = '/' then some c.toNat
  else if c = 'b' then some 8
  else if c = 'f' then some 12
  else if c = 'n' then some 10
  else if c = 'r' then some 13
  else if c = 't' then some 9
  else none

/-- The codes up to the closing quote, and the rest behind it.  A code is a
code point or, where it is written as `\uXXXX`, a unit of UTF-16. -/
def units? : List Char → Option (List Nat × List Char)
  | [] => none
  | '"' :: r => some ([], r)
  | '\\' :: 'u' :: a :: b :: c :: d :: r => do
    let n ← hex? [a, b, c, d]
    let (us, rest) ← units? r
    return (n :: us, rest)
  | '\\' :: c :: r => do
    let n ← escaped? c
    let (us, rest) ← units? r
    return (n :: us, rest)
  | c :: r =>
    if c.toNat < 0x20 then none
    else (units? r).map fun p => (c.toNat :: p.1, p.2)

/-- Whether a unit is the first half of a surrogate pair. -/
def isHigh (n : Nat) : Bool := 0xD800 ≤ n && n ≤ 0xDBFF

/-- Whether a unit is the second half of a surrogate pair. -/
def isLow (n : Nat) : Bool := 0xDC00 ≤ n && n ≤ 0xDFFF

/-- The characters that codes stand for; `none` if half of a surrogate pair
stands on its own. -/
def joinUnits? : List Nat → Option (List Char)
  | [] => some []
  | h :: l :: us =>
    if isHigh h then
      if isLow l then
        (joinUnits? us).map (Char.ofNat (0x10000 + (h - 0xD800) * 0x400 + (l - 0xDC00)) :: ·)
      else none
    else if isLow h then none
    else (joinUnits? (l :: us)).map (Char.ofNat h :: ·)
  | [n] => if isHigh n || isLow n then none else some [Char.ofNat n]

/-- The string up to the closing quote, and the rest behind it; `none` inside
for a string without a value. -/
def string? (cs : List Char) : Option (Option String × List Char) :=
  (units? cs).map fun p => ((joinUnits? p.1).map String.ofList, p.2)

/-! ## §2. Documents. -/

/-- The number of lists and objects that may stand inside one another. -/
def maxDepth : Nat := 127

mutual

/-- The document in front, inside `depth` others, and the rest behind it;
`fuel` bounds the parts that are read. -/
def value? : (fuel depth : Nat) → List Char → Option (Document × List Char)
  | 0, _, _ => none
  | fuel + 1, depth, cs =>
    match skipBlank cs with
    | 'n' :: 'u' :: 'l' :: 'l' :: r => some (.null, r)
    | 't' :: 'r' :: 'u' :: 'e' :: r => some (.boolean true, r)
    | 'f' :: 'a' :: 'l' :: 's' :: 'e' :: r => some (.boolean false, r)
    | '"' :: r => (string? r).map fun p => (p.1.elim .invalid .text, p.2)
    | '[' :: r =>
      match skipBlank r with
      | ']' :: r => some (if depth < maxDepth then .list [] else .invalid, r)
      | r => (items? fuel (depth + 1) r).map fun p =>
        (if depth < maxDepth then .list p.1 else .invalid, p.2)
    | '{' :: r =>
      match skipBlank r with
      | '}' :: r => some (if depth < maxDepth then .table [] else .invalid, r)
      | r => (entries? fuel (depth + 1) r).map fun p =>
        (if depth < maxDepth then p.1.elim .invalid .table else .invalid, p.2)
    | r => (number? r).map fun p => (if p.1.isInRange then .number else .invalid, p.2)

/-- The items of a list up to its bracket. -/
def items? : (fuel depth : Nat) → List Char → Option (List Document × List Char)
  | 0, _, _ => none
  | fuel + 1, depth, cs => do
    let (d, r) ← value? fuel depth cs
    match skipBlank r with
    | ']' :: r => return ([d], r)
    | ',' :: r =>
      let (ds, r) ← items? fuel depth r
      return (d :: ds, r)
    | _ => none

/-- The entries of an object up to its brace; `none` inside when a key has no
value. -/
def entries? : (fuel depth : Nat) → List Char →
    Option (Option (List (String × Document)) × List Char)
  | 0, _, _ => none
  | fuel + 1, depth, cs => do
    match skipBlank cs with
    | '"' :: r =>
      let (key, r) ← string? r
      match skipBlank r with
      | ':' :: r =>
        let (d, r) ← value? fuel depth r
        match skipBlank r with
        | '}' :: r => return (key.map fun k => [(k, d)], r)
        | ',' :: r =>
          let (es, r) ← entries? fuel depth r
          return (do return (← key, d) :: (← es), r)
        | _ => none
      | _ => none
    | _ => none

end

/-- The document that a text is. -/
def document? (cs : List Char) : Option Document := do
  let (d, r) ← value? (2 * cs.length + 2) 0 cs
  guard (skipBlank r).isEmpty
  return d

theorem joinUnits?_scalar {n : Nat} (h : isHigh n = false) (l : isLow n = false) :
    joinUnits? [n] = some [Char.ofNat n] := by
  simp [joinUnits?, h, l]

end Recordwise.Document.Json
