/-
  Recordwise.Charset
  ──────────────────
  **The character sets of raw records.**

  A record arrives as bytes in UTF-8 or ISO-8859-1.  `decode` reads them,
  `encode?` writes them, and `checkEncodable` refuses a text with a character
  that the set does not have.  Main statement:

      checkEncodable_utf8 — UTF-8 has every character
-/
import Recordwise.Failure
import Recordwise.Text.Blank
import Recordwise.Text.CaseMapping
import Recordwise.Text.Utf8

namespace Recordwise

/-- A character set. -/
inductive Charset where
  /-- UTF-8. -/
  | utf8
  /-- ISO-8859-1: one byte a character, the first 256 code points. -/
  | latin1
  deriving Repr, DecidableEq

namespace Charset

/-- The standard name of a character set. -/
def name : Charset → String
  | utf8 => "UTF-8"
  | latin1 => "ISO-8859-1"

/-- The character set that a name in any letter case denotes. -/
def ofName? (name : String) : Option Charset :=
  let n := Text.asciiUppered (Text.trimmed name)
  if n = "UTF-8" ∨ n = "UTF8" then some utf8
  else if n = "ISO-8859-1" ∨ n = "ISO8859-1" ∨ n = "LATIN1" ∨ n = "LATIN-1" then some latin1
  else none

/-- The character set that a name denotes, or the refusal of the setting. -/
def ofName (name : String) : Except Failure Charset :=
  match ofName? name with
  | some c => .ok c
  | none => .error (.configuration ("Unsupported charset: " ++ name) (some "charset"))

/-- Read bytes. -/
def decode (charset : Charset) (bytes : List UInt8) : Except Failure (List Char) :=
  match charset with
  | utf8 =>
    match Text.Utf8.decode bytes with
    | .ok cs => .ok cs
    | .error f => .error (.decode ("Invalid UTF-8 input: " ++ f.message))
  | latin1 => .ok (bytes.map fun b => Char.ofNat b.toNat)

/-- Whether the set has a character. -/
def has : Charset → Char → Bool
  | utf8, _ => true
  | latin1, c => c.toNat ≤ 0xFF

/-- The bytes of a text whose characters the set has. -/
def encode (charset : Charset) (cs : List Char) : List UInt8 :=
  match charset with
  | utf8 => Text.Utf8.encode cs
  | latin1 => cs.map fun c => UInt8.ofNat c.toNat

/-- Refuse a text with a character that the set does not have. -/
def checkEncodable (charset : Charset) (cs : List Char) : Except Failure Unit :=
  match cs.find? fun c => !charset.has c with
  | some c =>
    .error (.encode ("Character '" ++ c.toString ++ "' cannot be encoded as " ++ charset.name))
  | none => .ok ()

theorem checkEncodable_utf8 (cs : List Char) : utf8.checkEncodable cs = .ok () := by
  have h : cs.find? (fun c => !utf8.has c) = none := by simp [has]
  simp only [checkEncodable, h]

end Charset

end Recordwise
