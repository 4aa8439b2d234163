/-
  Recordwise.Proofs.Record.DelimitedRoundTrip
  ───────────────────────────────────────────
  **Delimited records read back as they were written.**

  A delimited record says one text for every field.  Whatever the delimiter,
  the escape character and the texts are, a reader with a matching schema
  finds these texts again: always when the record stands in a line of its
  own, and without a line end exactly when the record does not end in a line
  feed, which the reader would take for one.  Main statement:

      decode_encode_delimited — the round trip, with and without a line end
-/
import Recordwise.Proofs.Binding.Consistency
import Recordwise.Proofs.Record.Transport

namespace Recordwise.Record

/-! ## §1. What a delimited record says. -/

/-- The text that is written for a field, empty when there is nothing to
write. -/
def writtenText (b : Binding) (f : Field) : String :=
  match resolveField f b with
  | .ok (some s) => s
  | _ => ""

/-- What the delimited record of a binding says: a text for every field, in
field order. -/
def delimitedContent (fields : List Field) (b : Binding) : List (String × Value) :=
  fields.map fun f => (f.name, .text (writtenText b f))

theorem delimitedField_eq_ok {delimiter esc : Char} {b : Binding} {f : Field} {cs : List Char}
    (h : delimitedField delimiter esc b f = .ok cs) :
    cs = escape [delimiter] esc (writtenText b f).toList := by
  unfold delimitedField at h
  unfold writtenText
  cases hr : resolveField f b with
  | error e => rw [hr] at h; cases h
  | ok text? =>
      rw [hr] at h
      cases text? with
      | none => cases h; rfl
      | some s => cases h; rfl

theorem mapM_delimitedField {delimiter esc : Char} {b : Binding} {fields : List Field}
    {parts : List (List Char)} (h : fields.mapM (delimitedField delimiter esc b) = .ok parts) :
    parts = fields.map fun f => escape [delimiter] esc (writtenText b f).toList := by
  induction fields generalizing parts with
  | nil => cases h; rfl
  | cons f fs ih =>
      rw [List.mapM_cons] at h
      cases hf : delimitedField delimiter esc b f with
      | error e => rw [hf] at h; cases h
      | ok cs =>
          cases hfs : fs.mapM (delimitedField delimiter esc b) with
          | error e => rw [hf, hfs] at h; cases h
          | ok ps =>
              rw [hf, hfs] at h
              cases h
              rw [List.map_cons, ← delimitedField_eq_ok hf, ← ih hfs]

/-- A delimited record is the escaped texts of the fields between
delimiters. -/
theorem writeDelimited_eq_ok {delimiter esc : Char} {fields : List Field} {b : Binding}
    {cs : List Char} (h : writeDelimited delimiter esc fields b = .ok cs) :
    cs = List.intercalate [delimiter]
      ((fields.map fun f => (writtenText b f).toList).map (escape [delimiter] esc)) := by
  unfold writeDelimited at h
  cases hm : fields.mapM (delimitedField delimiter esc b) with
  | error e => rw [hm] at h; cases h
  | ok parts =>
      rw [hm] at h
      cases h
      rw [mapM_delimitedField hm, List.map_map]
      rfl

/-! ## §2. What a delimited reader makes of parts. -/

/-- The pairs that a reader binds for parts. -/
def boundParts (fields : List Field) (parts : List (List Char)) : List (String × Value) :=
  (fields.zip parts).map fun p => (p.1.name, .text (String.ofList p.2))

theorem readDelimited_eq_ok_iff {delimiter esc : Char} {fields : List Field} {cs : List Char}
    {r : Binding} :
    readDelimited delimiter esc fields cs = .ok r ↔
      ∃ parts, splitEscaped delimiter esc cs = some parts ∧ parts.length ≤ fields.length ∧
        r = Binding.ofList (boundParts fields parts) := by
  unfold readDelimited boundParts
  cases hs : splitEscaped delimiter esc cs with
  | none => simp
  | some parts =>
      by_cases hl : parts.length > fields.length
      · simp [hl, Nat.not_le.2 hl]
      · simp [hl, Nat.le_of_not_lt hl, eq_comm]

theorem names_boundParts (fields : List Field) (parts : List (List Char)) :
    (boundParts fields parts).map (·.1) = (fields.map (·.name)).take parts.length := by
  induction fields generalizing parts with
  | nil => simp [boundParts]
  | cons f fs ih =>
      cases parts with
      | nil => rfl
      | cons p ps => exact congrArg (f.name :: ·) (ih ps)

theorem names_boundParts_sublist (fields : List Field) (parts : List (List Char)) :
    ((boundParts fields parts).map (·.1)).Sublist (fields.map (·.name)) := by
  rw [names_boundParts]
  exact List.take_sublist _ _

theorem values_boundParts {fields : List Field} {parts : List (List Char)}
    (h : parts.length ≤ fields.length) :
    (boundParts fields parts).map (·.2) = parts.map fun p => Value.text (String.ofList p) := by
  unfold boundParts
  rw [List.map_map, ← List.map_snd_zip h, List.map_map, List.map_snd_zip h]
  rfl

/-- The parts can be told from the pairs that are bound for them. -/
theorem boundParts_inj {fields : List Field} {ps qs : List (List Char)}
    (hp : ps.length ≤ fields.length) (hq : qs.length ≤ fields.length)
    (h : boundParts fields ps = boundParts fields qs) : ps = qs := by
  have values : (ps.map fun p => Value.text (String.ofList p))
      = qs.map fun p => Value.text (String.ofList p) := by
    rw [← values_boundParts hp, ← values_boundParts hq, h]
  have inj : ∀ p q : List Char, Value.text (String.ofList p) = .text (String.ofList q) →
      p = q := by
    intro p q e
    have : (String.ofList p).toList = (String.ofList q).toList := by rw [Value.text.inj e]
    rwa [String.toList_ofList, String.toList_ofList] at this
  exact (List.map_inj_right inj).1 values

/-- **A delimited reader that finds the same values has found the same
parts.** -/
theorem splitEscaped_of_readDelimited {delimiter esc : Char} {fields : List Field}
    {cs : List Char} {parts : List (List Char)} (distinct : (fields.map (·.name)).Nodup)
    (len : parts.length ≤ fields.length)
    (h : readDelimited delimiter esc fields cs =
      .ok (Binding.ofList (boundParts fields parts))) :
    splitEscaped delimiter esc cs = some parts := by
  obtain ⟨ps, hs, hl, hr⟩ := readDelimited_eq_ok_iff.1 h
  have held : ∀ qs, (Binding.ofList (boundParts fields qs)).toList = boundParts fields qs :=
    fun qs => Binding.toList_ofList (distinct.sublist (names_boundParts_sublist fields qs))
  have same : boundParts fields ps = boundParts fields parts := by
    rw [← held ps, ← held parts, hr]
  rw [hs, boundParts_inj hl len same]

/-- Fields of the same names bind the texts of a record under these names. -/
theorem boundParts_of_names {fields written : List Field} (b : Binding)
    (names : fields.map (·.name) = written.map (·.name)) :
    boundParts fields (written.map fun f => (writtenText b f).toList) =
      delimitedContent written b := by
  have by_name : ∀ (fs : List Field) (parts : List (List Char)), boundParts fs parts =
      ((fs.map (·.name)).zip parts).map fun p => (p.1, .text (String.ofList p.2)) := by
    intro fs parts
    unfold boundParts
    rw [List.zip_map_left, List.map_map]
    rfl
  rw [by_name, names, List.zip_map', List.map_map]
  unfold delimitedContent
  exact List.map_congr_left fun f _ => by simp

/-! ## §3. The round trip. -/

/-- **Delimited records read back as they were written.** -/
theorem decode_encode_delimited {source sink : Schema} {writer : Codec} {delimiter esc : Char}
    {b : Binding} {s : String} (accepted : sink.codec = .ok writer)
    (layout : sink.layout = .delimited delimiter esc) (nonempty : sink.fields ≠ [])
    (matching : source.Matches sink) (written : writer.encode b = .ok s) :
    ∃ reader : Codec, source.codec = .ok reader ∧
      (Binding.ofList (delimitedContent sink.fields b)).toList =
        delimitedContent sink.fields b ∧
      reader.decode (writer.charset.encode (s.toList ++ ['\r', '\n'])) =
        .ok (Binding.ofList (delimitedContent sink.fields b)) ∧
      (reader.decode (writer.charset.encode s.toList) =
          .ok (Binding.ofList (delimitedContent sink.fields b)) ↔
        s.toList.getLast? ≠ some '\n') := by
  obtain ⟨reader, hreader, charset, rlayout, rnames⟩ := Schema.exists_codec matching accepted
  obtain ⟨hf, hl, -, wlayout, wfields⟩ := Schema.codec_eq_ok_iff.1 accepted
  obtain ⟨hwrite, has⟩ := Codec.writeText_of_encode written
  have hd : delimiter ≠ esc := by
    intro e
    rw [layout, Schema.checkLayout, if_pos e] at hl
    cases hl
  have distinct : (sink.fields.map (·.name)).Nodup := (Schema.checkFields_eq_ok_iff.1 hf).2
  rw [wfields] at rnames
  -- the record is the escaped texts between delimiters, so it splits into them
  have text : s.toList = List.intercalate [delimiter]
      ((sink.fields.map fun f => (writtenText b f).toList).map (escape [delimiter] esc)) := by
    apply writeDelimited_eq_ok
    rw [← hwrite, Codec.writeText, wlayout, layout, wfields]
  have split : splitEscaped delimiter esc s.toList =
      some (sink.fields.map fun f => (writtenText b f).toList) := by
    rw [text]
    exact splitEscaped_intercalate hd (by simpa using nonempty)
  have len : (sink.fields.map fun f => (writtenText b f).toList).length
      ≤ reader.fields.length := by
    have : reader.fields.length = sink.fields.length := by
      simpa using congrArg List.length rnames
    exact Nat.le_of_eq (by rw [List.length_map, this])
  have content := boundParts_of_names b rnames
  have whole : readDelimited delimiter esc reader.fields s.toList =
      .ok (Binding.ofList (delimitedContent sink.fields b)) :=
    readDelimited_eq_ok_iff.2 ⟨_, split, len, by rw [content]⟩
  have hread : ∀ ds, reader.readText ds =
      readDelimited delimiter esc reader.fields (stripLineEnd ds) := by
    intro ds
    rw [Codec.readText, rlayout, wlayout, layout]
  -- a beginning of the record that says the same is the whole record
  have cut : ∀ p x, s.toList = p ++ x → x ≠ [] → x.length ≤ 2 →
      readDelimited delimiter esc reader.fields p ≠
        .ok (Binding.ofList (delimitedContent sink.fields b)) := by
    intro p x hs hx _ same
    rw [← content] at same
    have hp := splitEscaped_of_readDelimited (rnames ▸ distinct) len same
    exact hx (splitEscaped_append_eq hp (hs ▸ split))
  have names : (delimitedContent sink.fields b).map (·.1) = sink.fields.map (·.name) := by
    unfold delimitedContent
    rw [List.map_map]
    rfl
  refine ⟨reader, hreader, Binding.toList_ofList (names ▸ distinct), ?_⟩
  rw [← charset] at has ⊢
  exact Codec.decode_line hread has whole cut

/-- A schema whose delimiter and escape character are those of line ends. -/
def lineEndSchema (charset : String) : Schema where
  charset := charset
  layout := .delimited '\n' '\r'
  fields := [{ name := "a" }, { name := "b" }]

/-- The round trip of a record that ends in its delimiter, a line feed. -/
theorem decode_encode_delimited_lineEnd :
    ∃ reader : Codec, (lineEndSchema "ISO-8859-1").codec = .ok reader ∧
      (Binding.ofList (delimitedContent (lineEndSchema "latin1").fields
          (Binding.ofList [("a", .text "é\n\r"), ("b", .null)]))).toList =
        delimitedContent (lineEndSchema "latin1").fields
          (Binding.ofList [("a", .text "é\n\r"), ("b", .null)]) ∧
      reader.decode (Charset.latin1.encode ("é\r\n\r\r\n".toList ++ ['\r', '\n'])) =
        .ok (Binding.ofList (delimitedContent (lineEndSchema "latin1").fields
          (Binding.ofList [("a", .text "é\n\r"), ("b", .null)]))) ∧
      (reader.decode (Charset.latin1.encode "é\r\n\r\r\n".toList) =
          .ok (Binding.ofList (delimitedContent (lineEndSchema "latin1").fields
            (Binding.ofList [("a", .text "é\n\r"), ("b", .null)]))) ↔
        "é\r\n\r\r\n".toList.getLast? ≠ some '\n') := by
  have accepted : (lineEndSchema "latin1").codec =
      .ok ⟨.latin1, (lineEndSchema "latin1").layout, (lineEndSchema "latin1").fields⟩ := rfl
  have matching : (lineEndSchema "ISO-8859-1").Matches (lineEndSchema "latin1") :=
    ⟨by decide +kernel, rfl, rfl⟩
  have written : Codec.encode
      ⟨.latin1, (lineEndSchema "latin1").layout, (lineEndSchema "latin1").fields⟩
      (Binding.ofList [("a", .text "é\n\r"), ("b", .null)]) = .ok "é\r\n\r\r\n" := rfl
  have trip :=
    decode_encode_delimited accepted rfl (by simp [lineEndSchema]) matching written
  exact trip

end Recordwise.Record
