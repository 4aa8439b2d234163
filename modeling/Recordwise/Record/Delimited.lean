/-
  Recordwise.Record.Delimited
  ───────────────────────────
  **The delimited layout: values in field order between delimiters.**

  A record may hold fewer values than the schema has fields, never more.
  Writing puts one value, possibly empty, for every field.  Main statement:

      resolveField_of_value — a value that is not null is what is written
-/
import Recordwise.Binding
import Recordwise.Record.Escape
import Recordwise.Schema

namespace Recordwise.Record

/-- The text to write for a field: its value when that is not null, else its
default, else nothing unless the field is required. -/
def resolveField (f : Field) (b : Binding) : Except Failure (Option String) :=
  match (b.get? f.name).bind Value.text? with
  | some s => .ok (some s)
  | none =>
    match f.default?, f.required with
    | some d, _ => .ok (some d)
    | none, true =>
      .error (.encode ("Required sink field '" ++ f.name ++ "' has no value and no default"))
    | none, false => .ok none

/-- Bind the values of a delimited record to the fields they stand for. -/
def readDelimited (delimiter esc : Char) (fields : List Field) (cs : List Char) :
    Except Failure Binding :=
  match splitEscaped delimiter esc cs with
  | none =>
    .error (.decode ("Dangling escape character '" ++ esc.toString ++ "' at end of record"))
  | some parts =>
    if parts.length > fields.length then
      .error (.decode ("Record has " ++ Nat.repr parts.length
        ++ " fields but the source schema declares " ++ Nat.repr fields.length))
    else
      .ok (Binding.ofList
        ((fields.zip parts).map fun p => (p.1.name, .text (String.ofList p.2))))

/-- The text of a field in a delimited record. -/
def delimitedField (delimiter esc : Char) (b : Binding) (f : Field) :
    Except Failure (List Char) :=
  (resolveField f b).map fun
    | some s => escape [delimiter] esc s.toList
    | none => []

/-- The delimited record of a binding. -/
def writeDelimited (delimiter esc : Char) (fields : List Field) (b : Binding) :
    Except Failure (List Char) :=
  (fields.mapM (delimitedField delimiter esc b)).map (List.intercalate [delimiter])

/-- A value that is not null is what is written. -/
theorem resolveField_of_value {f : Field} {b : Binding} {v : Value}
    (h : b.get? f.name = some v) (hv : v ≠ .null) : resolveField f b = .ok (some v.render) := by
  simp [resolveField, h, Value.text?_of_ne_null hv]

end Recordwise.Record
