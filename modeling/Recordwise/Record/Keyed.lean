/-
  Recordwise.Record.Keyed
  ───────────────────────
  **The keyed layout: entries of a name and a value.**

  A backslash takes the next character literally, in names and in values.
  Reading skips empty entries and the entries of names that the schema does
  not have; of a name that occurs twice the last value counts.  Writing skips
  the fields that have nothing to write.  Main statements:

      readEntry_of_unknown — the entry of an unknown name binds nothing
      splitEntry_escape    — an escaped name ends at the delimiter behind it
-/
import Recordwise.Record.Delimited

namespace Recordwise.Record

/-- Resolve the escapes of a name or a value. -/
def resolveEscapes (cs : List Char) : Except Failure (List Char) :=
  match unescape cs with
  | some r => .ok r
  | none =>
    .error (.decode ("Dangling escape character '\\' in '" ++ String.ofList cs ++ "'"))

/-- Bind what one entry says. -/
def readEntry (pair : Char) (fields : List Field) (b : Binding) (entry : List Char) :
    Except Failure Binding :=
  if entry = [] then .ok b
  else match splitEntry pair entry with
  | none =>
    .error (.decode ("Entry '" ++ String.ofList entry ++ "' has no '" ++ pair.toString
      ++ "' separator"))
  | some (key, value) => do
    let name := String.ofList (← resolveEscapes key)
    if fields.any (·.name == name) then
      let v ← resolveEscapes value
      return b.insert name (.text (String.ofList v))
    else return b

/-- Bind the values of a keyed record to the names they stand behind. -/
def readKeyed (entry pair : Char) (fields : List Field) (cs : List Char) :
    Except Failure Binding :=
  if cs = [] then .ok Binding.empty
  else (splitRaw entry cs).foldlM (readEntry pair fields) Binding.empty

/-- The entry of a field in a keyed record; `none` when the field has nothing
to write. -/
def keyedEntry (entry pair : Char) (b : Binding) (f : Field) :
    Except Failure (Option (List Char)) :=
  (resolveField f b).map fun text? => text?.map fun s =>
    escape [entry, pair] '\\' f.name.toList ++ pair :: escape [entry, pair] '\\' s.toList

/-- The keyed record of a binding. -/
def writeKeyed (entry pair : Char) (fields : List Field) (b : Binding) :
    Except Failure (List Char) :=
  (fields.mapM (keyedEntry entry pair b)).map fun entries =>
    List.intercalate [entry] (entries.filterMap id)

/-- The entry of an unknown name binds nothing, whatever its value. -/
theorem readEntry_of_unknown {pair : Char} {fields : List Field} {entry key value name : List Char}
    (hs : splitEntry pair entry = some (key, value)) (hu : unescape key = some name)
    (hf : ∀ f ∈ fields, f.name ≠ String.ofList name) (b : Binding) :
    readEntry pair fields b entry = .ok b := by
  have he : entry ≠ [] := by rintro rfl; cases hs
  have hn : fields.any (·.name == String.ofList name) = false := by simpa using hf
  simp [readEntry, he, hs, resolveEscapes, hu, hn, bind, Except.bind, pure, Except.pure]

/-- An escaped name ends at the delimiter behind it. -/
theorem splitEntry_escape {pair : Char} {specials : List Char} (h : pair ∈ specials)
    (hp : pair ≠ '\\') (name rest : List Char) :
    splitEntry pair (escape specials '\\' name ++ pair :: rest) =
      some (escape specials '\\' name, rest) := by
  induction name with
  | nil =>
    rw [escape, List.nil_append, splitEntry.eq_def]
    simp [hp]
  | cons c cs ih =>
    by_cases hc : c = '\\' ∨ c ∈ specials
    · simp [escape, hc, splitEntry, ih]
    · have h₁ : c ≠ '\\' := fun e => hc (.inl e)
      have h₂ : c ≠ pair := fun e => hc (.inr (e ▸ h))
      rw [escape, if_neg hc, List.cons_append, splitEntry.eq_def]
      simp [h₁, h₂, ih]

end Recordwise.Record
