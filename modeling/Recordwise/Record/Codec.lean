/-
  Recordwise.Record.Codec
  ───────────────────────
  **Raw records in, raw records out.**

  `Codec.decode` reads the bytes of one record, with or without its line end,
  into a binding; `Codec.encode` writes a binding as the text of a record.
  Main statement:

      decode_of_charset_error — bytes outside the character set are refused
                                before anything else is looked at
-/
import Recordwise.Record.Keyed

namespace Recordwise.Codec

open Record

/-- Bind the fields of a record's text, its line end removed. -/
def readText (codec : Codec) (cs : List Char) : Except Failure Binding :=
  match codec.layout with
  | .delimited delimiter esc => readDelimited delimiter esc codec.fields (stripLineEnd cs)
  | .keyed entry pair => readKeyed entry pair codec.fields (stripLineEnd cs)

/-- Read the bytes of one record. -/
def decode (codec : Codec) (bytes : List UInt8) : Except Failure Binding := do
  codec.readText (← codec.charset.decode bytes)

/-- The text of a binding's record, before its characters are checked. -/
def writeText (codec : Codec) (b : Binding) : Except Failure (List Char) :=
  match codec.layout with
  | .delimited delimiter esc => writeDelimited delimiter esc codec.fields b
  | .keyed entry pair => writeKeyed entry pair codec.fields b

/-- Write a binding as the text of a record. -/
def encode (codec : Codec) (b : Binding) : Except Failure String := do
  let cs ← codec.writeText b
  codec.charset.checkEncodable cs
  return String.ofList cs

theorem decode_of_charset_error {codec : Codec} {bytes : List UInt8} {f : Failure}
    (h : codec.charset.decode bytes = .error f) : codec.decode bytes = .error f := by
  simp [decode, h, bind, Except.bind]

end Recordwise.Codec
