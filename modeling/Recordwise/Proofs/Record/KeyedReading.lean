/-
  Recordwise.Proofs.Record.KeyedReading
  ─────────────────────────────────────
  **A keyed record says what its entries say.**

  Reading a keyed record folds over its entries, but each entry says what it
  says on its own: a text for a known name, or nothing.  So a record is read
  entry by entry, and what is read is bound afterwards.  Where no known name
  occurs twice, the order of the entries does not matter.  And a record that
  was written says to a reader with other fields what was written for the
  fields it knows.  Main statements:

      readEntry_eq       — an entry binds what it says
      readKeyed_eq       — a record binds what its entries say
      readKeyed_perm     — entries in another order say the same
      Codec.decode_keyed — what was written, read with other fields
-/
import Recordwise.Proofs.Binding.Lookup
import Recordwise.Proofs.Failure.EveryMember
import Recordwise.Proofs.Record.KeyedRoundTrip
import Recordwise.Proofs.Record.Rejecting

namespace Recordwise.Record

variable {entry pair : Char} {fields : List Field}

/-! ## §1. What one entry says. -/

/-- What an entry says: the text of a known name, or nothing. -/
def saying (pair : Char) (fields : List Field) (text : List Char) :
    Except Failure (List (String × Value)) :=
  (readEntry pair fields Binding.empty text).map Binding.toList

/-- The name that stands in front of an entry, its escapes resolved; `none`
when there is no delimiter behind a name. -/
def entryName? (pair : Char) (text : List Char) : Option String :=
  (splitEntry pair text).bind fun parts => (unescape parts.1).map String.ofList

/-- **What reading an entry can come to**: a failure, nothing, or a value for
the name in front of it, which is known; what was bound before does not
matter. -/
theorem readEntry_cases (pair : Char) (fields : List Field) (text : List Char) :
    (∃ e, ∀ b, readEntry pair fields b text = .error e) ∨
      (∀ b, readEntry pair fields b text = .ok b) ∨
      ∃ name v, entryName? pair text = some name ∧ name ∈ fields.map (·.name) ∧
        ∀ b, readEntry pair fields b text = .ok (b.insert name v) := by
  by_cases blank : text = []
  · exact .inr (.inl fun b => by rw [readEntry, if_pos blank])
  cases cut : splitEntry pair text with
  | none => exact .inl ⟨_, fun b => by rw [readEntry, if_neg blank, cut]⟩
  | some parts =>
      obtain ⟨key, value⟩ := parts
      cases resolved : unescape key with
      | none =>
          obtain ⟨e, dangling⟩ : ∃ e, resolveEscapes key = .error e := by
            rw [resolveEscapes, resolved]
            exact ⟨_, rfl⟩
          refine .inl ⟨e, fun b => ?_⟩
          rw [readEntry, if_neg blank, cut]
          show resolveEscapes key >>= _ = _
          rw [dangling]
          rfl
      | some name =>
          by_cases known : String.ofList name ∈ fields.map (·.name)
          · have bound := readEntry_of_known cut resolved known
            cases read : resolveEscapes value with
            | error e => exact .inl ⟨e, fun b => by rw [bound, read]; rfl⟩
            | ok v =>
                refine .inr (.inr ⟨_, .text (String.ofList v), ?_, known, fun b => ?_⟩)
                · rw [entryName?, cut]
                  exact congrArg (Option.map String.ofList) resolved
                · rw [bound, read]
                  rfl
          · -- the value of an unknown name is not even looked at
            have unknown : ∀ f ∈ fields, f.name ≠ String.ofList name :=
              fun f listed same => known (same ▸ List.mem_map_of_mem listed)
            exact .inr (.inl (readEntry_of_unknown cut resolved unknown))

/-- **An entry binds what it says.** -/
theorem readEntry_eq (pair : Char) (fields : List Field) (b : Binding) (text : List Char) :
    readEntry pair fields b text =
      (saying pair fields text).map (List.foldl (fun b p => b.insert p.1 p.2) b) := by
  unfold saying
  rcases readEntry_cases pair fields text with ⟨e, fails⟩ | skips | ⟨name, v, -, -, binds⟩
  · rw [fails, fails]
    rfl
  · rw [skips, skips]
    rfl
  · rw [binds, binds]
    rfl

/-- The names of what an entry says are those that are known of the name in
front of it. -/
theorem names_saying_sublist {text : List Char} {said : List (String × Value)}
    (h : saying pair fields text = .ok said) :
    (said.map (·.1)).Sublist
      ((entryName? pair text).toList.filter (· ∈ fields.map (·.name))) := by
  unfold saying at h
  rcases readEntry_cases pair fields text with ⟨e, fails⟩ | skips | ⟨name, v, named, known, binds⟩
  · rw [fails] at h
    cases h
  · rw [skips] at h
    cases h
    exact List.nil_sublist _
  · rw [binds] at h
    cases h
    rw [named, Option.toList_some, List.filter_cons_of_pos (by simpa using known)]
    exact .refl _

/-! ## §2. What a record says. -/

/-- The known names that stand in front of entries. -/
def knownNames (pair : Char) (fields : List Field) (texts : List (List Char)) : List String :=
  (texts.filterMap (entryName? pair)).filter (· ∈ fields.map (·.name))

theorem foldlM_readEntry_eq (texts : List (List Char)) (b : Binding) :
    texts.foldlM (readEntry pair fields) b =
      (texts.mapM (saying pair fields)).map fun said =>
        said.flatten.foldl (fun b p => b.insert p.1 p.2) b := by
  -- a failure ends both sides at the same entry, so the failures agree, too
  induction texts generalizing b with
  | nil => rfl
  | cons text texts ih =>
      rw [List.foldlM_cons, List.mapM_cons, readEntry_eq]
      cases saying pair fields text with
      | error e => rfl
      | ok said =>
          show texts.foldlM (readEntry pair fields) (said.foldl _ b) = _
          rw [ih]
          cases texts.mapM (saying pair fields) with
          | error e => rfl
          | ok rest =>
              show Except.ok _ = Except.ok ((said ++ rest.flatten).foldl _ b)
              rw [List.foldl_append]

/-- **A record binds what its entries say**, one after the other. -/
theorem readKeyed_eq (entry pair : Char) (fields : List Field) (cs : List Char) :
    readKeyed entry pair fields cs =
      ((splitRaw entry cs).mapM (saying pair fields)).map fun said =>
        Binding.ofList said.flatten := by
  unfold readKeyed
  by_cases blank : cs = []
  · -- the empty record is one empty entry, which says nothing
    rw [if_pos blank, blank]
    rfl
  · rw [if_neg blank]
    exact foldlM_readEntry_eq _ Binding.empty

theorem names_sayings_sublist {texts : List (List Char)} {said : List (List (String × Value))}
    (h : texts.mapM (saying pair fields) = .ok said) :
    (said.flatten.map (·.1)).Sublist (knownNames pair fields texts) := by
  induction texts generalizing said with
  | nil =>
      cases h
      exact .slnil
  | cons text texts ih =>
      rw [List.mapM_cons] at h
      obtain ⟨first, here, h⟩ := bind_eq_ok_iff.1 h
      obtain ⟨rest, behind, h⟩ := bind_eq_ok_iff.1 h
      cases h
      have names : knownNames pair fields (text :: texts) =
          (entryName? pair text).toList.filter (· ∈ fields.map (·.name)) ++
            knownNames pair fields texts := by
        unfold knownNames
        rw [List.filterMap_cons]
        cases entryName? pair text with
        | none => rfl
        | some name => exact List.filter_append [name] _
      rw [names, List.flatten_cons, List.map_append]
      exact (names_saying_sublist here).append (ih behind)

/-! ## §3. Entries in another order. -/

/-- **Entries in another order say the same**, where no known name occurs
twice: both records fail, or both bind the same value to every name. -/
theorem readKeyed_perm {cs ds : List Char} (perm : (splitRaw entry cs).Perm (splitRaw entry ds))
    (once : (knownNames pair fields (splitRaw entry cs)).Nodup) :
    ((∃ e, readKeyed entry pair fields cs = .error e) ∧
        ∃ e, readKeyed entry pair fields ds = .error e) ∨
      ∃ b c, readKeyed entry pair fields cs = .ok b ∧ readKeyed entry pair fields ds = .ok c ∧
        ∀ name, b.get? name = c.get? name := by
  rw [readKeyed_eq, readKeyed_eq]
  rcases mapM_cases_of_perm perm (saying pair fields) with
    ⟨said, others, here, there, same⟩ | ⟨⟨e, here⟩, d, there⟩
  · right
    rw [here, there]
    have distinct : (said.flatten.map (·.1)).Nodup := (names_sayings_sublist here).nodup once
    exact ⟨_, _, rfl, rfl, Binding.get?_ofList_perm same.flatten distinct⟩
  · left
    rw [here, there]
    exact ⟨⟨e, rfl⟩, d, rfl⟩

/-! ## §4. Records that were written. -/

/-- What the entry of a name and a text says: the text, when the name is
known. -/
def entrySays (fields : List Field) (p : String × String) : List (String × Value) :=
  if p.1 ∈ fields.map (·.name) then [(p.1, .text p.2)] else []

/-- **The entry of a name and a text says the text**, when the name is known. -/
theorem saying_entryText (he : pair ≠ '\\') (p : String × String) :
    saying pair fields (entryText entry pair p) = .ok (entrySays fields p) := by
  unfold saying entrySays
  by_cases known : p.1 ∈ fields.map (·.name)
  · rw [readEntry_entryText he known, if_pos known]
    rfl
  · have other : ∀ f ∈ fields, f.name ≠ String.ofList p.1.toList := by
      rw [String.ofList_toList]
      exact fun f listed same => known (same ▸ List.mem_map_of_mem listed)
    rw [readEntry_of_unknown (splitEntry_entryText he p) (unescape_escape _ _) other,
      if_neg known]
    rfl

theorem flatten_entrySays (fields : List Field) (ps : List (String × String)) :
    (ps.map (entrySays fields)).flatten =
      textPairs (ps.filter (·.1 ∈ fields.map (·.name))) := by
  induction ps with
  | nil => rfl
  | cons p ps ih =>
      rw [List.map_cons, List.flatten_cons, ih, entrySays]
      by_cases known : p.1 ∈ fields.map (·.name)
      · rw [if_pos known, List.filter_cons_of_pos (by simpa using known)]
        rfl
      · rw [if_neg known, List.filter_cons_of_neg (by simpa using known)]
        rfl

/-- Unsplit texts between delimiters are the parts. -/
theorem splitRaw_intercalate (hb : entry ≠ '\\') {es : List (List Char)}
    (h : ∀ e ∈ es, Unsplit entry e) (ne : es ≠ []) :
    splitRaw entry (List.intercalate [entry] es) = es := by
  rcases List.eq_nil_or_concat es with rfl | ⟨init, e, rfl⟩
  · exact absurd rfl ne
  · rw [List.concat_eq_append] at h ⊢
    rw [intercalate_append_singleton,
      splitRaw_flatMap_append hb fun f listed => h f (List.mem_append_left [e] listed),
      splitRaw_of_unsplit (h e (by simp))]

/-- **A record that was written is read entry by entry**, with whatever fields:
the entries of known names bind their texts, the others nothing. -/
theorem readKeyed_entryTexts (hb : entry ≠ '\\') (he : pair ≠ '\\') (hd : entry ≠ pair)
    (fields : List Field) (ps : List (String × String)) :
    readKeyed entry pair fields (List.intercalate [entry] (ps.map (entryText entry pair))) =
      .ok (Binding.ofList (textPairs (ps.filter (·.1 ∈ fields.map (·.name))))) := by
  by_cases none_written : ps = []
  · rw [none_written]
    rfl
  · have unsplit : ∀ e ∈ ps.map (entryText entry pair), Unsplit entry e := by
      intro e listed
      obtain ⟨p, -, rfl⟩ := List.mem_map.1 listed
      exact unsplit_entryText he hd p
    have said : (ps.map (entryText entry pair)).mapM (saying pair fields) =
        .ok (ps.map (entrySays fields)) := by
      rw [mapM_eq_ok_iff, List.map_map, List.map_map]
      exact List.map_congr_left fun p _ => saying_entryText he p
    rw [readKeyed_eq, splitRaw_intercalate hb unsplit (by simpa using none_written), said,
      ← flatten_entrySays]
    rfl

/-! ## §5. Values that were written. -/

/-- A field whose name has a value that is not null is written with the text of
the value. -/
theorem mem_keyedTexts {fields : List Field} {b : Binding} {name : String} {v : Value}
    (named : name ∈ fields.map (·.name)) (bound : b.get? name = some v) (there : v ≠ .null) :
    (name, v.render) ∈ keyedTexts fields b := by
  obtain ⟨f, listed, rfl⟩ := List.mem_map.1 named
  refine List.mem_filterMap.2 ⟨f, listed, ?_⟩
  rw [resolveField_of_value bound there]

/-- What a name is bound to in such a record is what was written for it. -/
theorem get?_textPairs_filter (fields : List Field) {sinkFields : List Field}
    (distinct : (sinkFields.map (·.name)).Nodup) (b : Binding) (name text : String) :
    (Binding.ofList (textPairs
        ((keyedTexts sinkFields b).filter (·.1 ∈ fields.map (·.name))))).get? name =
        some (.text text) ↔
      (name, text) ∈ keyedTexts sinkFields b ∧ name ∈ fields.map (·.name) := by
  have names : ((textPairs
      ((keyedTexts sinkFields b).filter (·.1 ∈ fields.map (·.name)))).map (·.1)).Nodup := by
    rw [names_textPairs]
    exact distinct.sublist ((List.filter_sublist.map _).trans (names_keyedTexts_sublist _ b))
  rw [Binding.get?_eq_some_iff (Binding.isConsistent_ofList _), Binding.toList_ofList names]
  unfold textPairs
  constructor
  · intro listed
    obtain ⟨p, among, same⟩ := List.mem_map.1 listed
    cases same
    simpa using List.mem_filter.1 among
  · intro listed
    exact List.mem_map.2 ⟨(name, text), List.mem_filter.2 (by simpa using listed), rfl⟩

end Recordwise.Record

namespace Recordwise

open Record

theorem Schema.ne_of_checkLayout {entry pair : Char}
    (accepted : checkLayout (.keyed entry pair) = .ok ()) : entry ≠ pair := by
  intro same
  rw [checkLayout, if_pos same] at accepted
  cases accepted

/-- **A keyed record that was written reads back with other fields**: those it
knows are bound to what was written for them. -/
theorem Codec.decode_keyed {writer reader : Codec} {entry pair : Char} {b : Binding} {text : String}
    (keyed : writer.layout = .keyed entry pair) (hb : entry ≠ '\\') (he : pair ≠ '\\')
    (hd : entry ≠ pair) (charset : reader.charset = writer.charset)
    (layout : reader.layout = writer.layout) (written : writer.encode b = .ok text) :
    reader.decode (writer.charset.encode (text.toList ++ ['\r', '\n'])) =
      .ok (Binding.ofList (textPairs
        ((keyedTexts writer.fields b).filter (·.1 ∈ reader.fields.map (·.name))))) := by
  obtain ⟨texts, has⟩ := Codec.writeText_of_encode written
  have texts : text.toList =
      List.intercalate [entry] ((keyedTexts writer.fields b).map (entryText entry pair)) := by
    apply writeKeyed_eq_ok
    rw [← texts, Codec.writeText, keyed]
  have hasLine : ∀ c ∈ text.toList ++ ['\r', '\n'], reader.charset.has c = true := by
    rw [charset]
    exact Charset.has_append_lineEnd has
  rw [← charset, Codec.decode_encode_text hasLine, Codec.readText, layout, keyed]
  show readKeyed entry pair reader.fields (stripLineEnd _) = _
  rw [stripLineEnd_append_crlf, texts]
  exact readKeyed_entryTexts hb he hd reader.fields _

end Recordwise
