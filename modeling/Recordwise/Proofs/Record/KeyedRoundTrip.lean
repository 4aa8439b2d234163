/-
  Recordwise.Proofs.Record.KeyedRoundTrip
  ───────────────────────────────────────
  **Keyed records read back as they were written.**

  A keyed record holds an entry for every field that has something to write.
  A reader with a matching schema splits the record into these entries, each
  entry at the delimiter behind its name, and resolves the escapes of both
  halves: three passes that undo one pass of escaping, as long as neither
  delimiter is the backslash.  Without a line end behind it the record reads
  back exactly when it does not end in a line feed.  Main statements:

      readEntry_entryText — one entry binds its name to its text
      readKeyed_eq_ok     — a record binds its entries, one after the other
      readKeyed_cut_ne    — a record cut short by a line end says less
      decode_encode_keyed — the round trip, with and without a line end
-/
import Recordwise.Proofs.Binding.Consistency
import Recordwise.Proofs.Record.Transport

namespace Recordwise.Record

/-! ## §1. What a keyed record says. -/

/-- The names and texts of a keyed record: those of the fields that have
something to write, in field order. -/
def keyedTexts (fields : List Field) (b : Binding) : List (String × String) :=
  fields.filterMap fun f =>
    match resolveField f b with
    | .ok (some s) => some (f.name, s)
    | _ => none

/-- What names and texts bind. -/
def textPairs (ps : List (String × String)) : List (String × Value) :=
  ps.map fun p => (p.1, .text p.2)

/-- The entry of a name and a text. -/
def entryText (entry pair : Char) (p : String × String) : List Char :=
  escape [entry, pair] '\\' p.1.toList ++ pair :: escape [entry, pair] '\\' p.2.toList

theorem mapM_keyedEntry {entry pair : Char} {b : Binding} {fields : List Field}
    {entries : List (Option (List Char))}
    (h : fields.mapM (keyedEntry entry pair b) = .ok entries) :
    entries.filterMap id = (keyedTexts fields b).map (entryText entry pair) := by
  induction fields generalizing entries with
  | nil => cases h; rfl
  | cons f fs ih =>
      rw [List.mapM_cons] at h
      cases hr : resolveField f b with
      | error e =>
          rw [keyedEntry, hr] at h
          cases h
      | ok text? =>
          rw [keyedEntry, hr] at h
          cases hfs : fs.mapM (keyedEntry entry pair b) with
          | error e => rw [hfs] at h; cases h
          | ok es =>
              rw [hfs] at h
              cases h
              -- a field with nothing to write leaves neither an entry nor a text
              cases text? with
              | none =>
                  have texts : keyedTexts (f :: fs) b = keyedTexts fs b := by
                    simp [keyedTexts, hr]
                  rw [texts, ← ih hfs]
                  rfl
              | some s =>
                  have texts : keyedTexts (f :: fs) b = (f.name, s) :: keyedTexts fs b := by
                    simp [keyedTexts, hr]
                  rw [texts, List.map_cons, ← ih hfs]
                  rfl

/-- A keyed record is its entries between delimiters. -/
theorem writeKeyed_eq_ok {entry pair : Char} {fields : List Field} {b : Binding}
    {cs : List Char} (h : writeKeyed entry pair fields b = .ok cs) :
    cs = List.intercalate [entry] ((keyedTexts fields b).map (entryText entry pair)) := by
  unfold writeKeyed at h
  cases hm : fields.mapM (keyedEntry entry pair b) with
  | error e => rw [hm] at h; cases h
  | ok entries =>
      rw [hm] at h
      cases h
      show List.intercalate [entry] (entries.filterMap id) = _
      rw [mapM_keyedEntry hm]

theorem names_keyedTexts_sublist (fields : List Field) (b : Binding) :
    ((keyedTexts fields b).map (·.1)).Sublist (fields.map (·.name)) := by
  unfold keyedTexts
  induction fields with
  | nil => exact List.Sublist.slnil
  | cons f fs ih =>
      rw [List.filterMap_cons]
      split
      · exact ih.cons f.name
      · rename_i p hp
        have hn : p.1 = f.name := by
          split at hp
          · cases hp; rfl
          · cases hp
        rw [List.map_cons, List.map_cons, hn]
        exact ih.cons_cons f.name

theorem names_textPairs (ps : List (String × String)) :
    (textPairs ps).map (·.1) = ps.map (·.1) := by
  unfold textPairs
  rw [List.map_map]
  rfl

/-! ## §2. Reading what was written. -/

section Reading

variable {entry pair : Char} {fields : List Field}

theorem unsplit_entryText (he : pair ≠ '\\') (hd : entry ≠ pair) (p : String × String) :
    Unsplit entry (entryText entry pair p) := by
  have special : entry ∈ [entry, pair] := List.mem_cons_self
  exact unsplit_append (unsplit_escape special _)
    (unsplit_cons he hd.symm (unsplit_escape special _))

theorem splitEntry_entryText (he : pair ≠ '\\') (p : String × String) :
    splitEntry pair (entryText entry pair p) =
      some (escape [entry, pair] '\\' p.1.toList, escape [entry, pair] '\\' p.2.toList) :=
  splitEntry_escape (by simp) he p.1.toList _

theorem entryText_ne_nil (p : String × String) : entryText entry pair p ≠ [] := by
  unfold entryText
  simp

/-- The name of an entry is known when a field has it. -/
theorem readEntry_of_known {key value name : List Char} {text : List Char}
    (hs : splitEntry pair text = some (key, value)) (hu : unescape key = some name)
    (known : String.ofList name ∈ fields.map (·.name)) (b : Binding) :
    readEntry pair fields b text =
      (resolveEscapes value).map fun v =>
        b.insert (String.ofList name) (.text (String.ofList v)) := by
  have ht : text ≠ [] := by rintro rfl; cases hs
  have hn : fields.any (·.name == String.ofList name) = true := by
    obtain ⟨f, hf, e⟩ := List.mem_map.1 known
    exact List.any_eq_true.2 ⟨f, hf, by simp [e]⟩
  rw [readEntry, if_neg ht, hs]
  simp only [resolveEscapes, hu, bind, Except.bind]
  rw [if_pos hn]
  cases unescape value <;> rfl

/-- **One entry binds its name to its text.** -/
theorem readEntry_entryText (he : pair ≠ '\\') {p : String × String}
    (known : p.1 ∈ fields.map (·.name)) (b : Binding) :
    readEntry pair fields b (entryText entry pair p) = .ok (b.insert p.1 (.text p.2)) := by
  rw [readEntry_of_known (splitEntry_entryText he p) (unescape_escape _ _)
    (by rwa [String.ofList_toList])]
  simp only [resolveEscapes, unescape_escape, Except.map, String.ofList_toList]

theorem foldlM_readEntry (he : pair ≠ '\\') {ps : List (String × String)}
    (known : ∀ p ∈ ps, p.1 ∈ fields.map (·.name)) (b : Binding) :
    (ps.map (entryText entry pair)).foldlM (readEntry pair fields) b =
      .ok ((textPairs ps).foldl (fun b p => b.insert p.1 p.2) b) := by
  induction ps generalizing b with
  | nil => rfl
  | cons p ps ih =>
      rw [List.map_cons, List.foldlM_cons, readEntry_entryText he (known p List.mem_cons_self)]
      exact ih (fun q hq => known q (List.mem_cons_of_mem p hq)) _

theorem intercalate_append_singleton (d : Char) (es : List (List Char)) (e : List Char) :
    List.intercalate [d] (es ++ [e]) = es.flatMap (· ++ [d]) ++ e := by
  induction es with
  | nil => simp
  | cons f fs ih =>
      cases fs with
      | nil => simp
      | cons g gs =>
          rw [List.cons_append, List.cons_append, List.intercalate_cons_cons, ← List.cons_append,
            ih, List.flatMap_cons]
          simp

/-- Reading entries and a last text that no delimiter splits. -/
theorem readKeyed_append (hb : entry ≠ '\\') (he : pair ≠ '\\') (hd : entry ≠ pair)
    {ps : List (String × String)} (known : ∀ p ∈ ps, p.1 ∈ fields.map (·.name))
    {last : List Char} (hl : splitRaw entry last = [last])
    (ne : (ps.map (entryText entry pair)).flatMap (· ++ [entry]) ++ last ≠ []) :
    readKeyed entry pair fields
        ((ps.map (entryText entry pair)).flatMap (· ++ [entry]) ++ last) =
      readEntry pair fields (Binding.ofList (textPairs ps)) last := by
  have unsplit : ∀ t ∈ ps.map (entryText entry pair), Unsplit entry t := by
    intro t ht
    obtain ⟨p, -, rfl⟩ := List.mem_map.1 ht
    exact unsplit_entryText he hd p
  -- the entries in front of the last text are parts of their own
  rw [readKeyed, if_neg ne, splitRaw_flatMap_append hb unsplit, hl, List.foldlM_append,
    foldlM_readEntry he known]
  show ([last].foldlM (readEntry pair fields) _) = _
  rw [List.foldlM_cons]
  cases h : readEntry pair fields (Binding.ofList (textPairs ps)) last with
  | error e => simp only [Binding.ofList] at h; rw [h]; rfl
  | ok r => simp only [Binding.ofList] at h; rw [h]; rfl

/-- **A record binds its entries, one after the other.** -/
theorem readKeyed_eq_ok (hb : entry ≠ '\\') (he : pair ≠ '\\') (hd : entry ≠ pair)
    {ps : List (String × String)} (known : ∀ p ∈ ps, p.1 ∈ fields.map (·.name)) :
    readKeyed entry pair fields
        (List.intercalate [entry] (ps.map (entryText entry pair))) =
      .ok (Binding.ofList (textPairs ps)) := by
  rcases List.eq_nil_or_concat ps with rfl | ⟨init, p, rfl⟩
  · rfl
  · rw [List.concat_eq_append] at known ⊢
    have last := splitRaw_of_unsplit (unsplit_entryText he hd p)
    rw [List.map_append, List.map_singleton, intercalate_append_singleton,
      readKeyed_append hb he hd (fun q hq => known q (List.mem_append_left [p] hq)) last
        (by simp [entryText_ne_nil]),
      readEntry_entryText he (known p (by simp))]
    simp [textPairs, Binding.ofList_append_singleton]

/-! ## §3. Reading what was cut short. -/

theorem two_le_length_entryText {p : String × String} (h : p.1 ≠ "") :
    2 ≤ (entryText entry pair p).length := by
  have name : 0 < (escape [entry, pair] '\\' p.1.toList).length := by
    cases hn : p.1.toList with
    | nil => exact absurd (String.toList_eq_nil_iff.1 hn) h
    | cons c cs =>
        rw [escape]
        split <;> simp
  unfold entryText
  rw [List.length_append, List.length_cons]
  omega

/-- The last entry, cut short, does not bind what it does when whole. -/
theorem readEntry_cut_ne (he : pair ≠ '\\') {ps : List (String × String)}
    {p : String × String} (known : p.1 ∈ fields.map (·.name))
    (distinct : ((ps ++ [p]).map (·.1)).Nodup) {short x : List Char}
    (hx : entryText entry pair p = short ++ x) (ne : x ≠ []) :
    readEntry pair fields (Binding.ofList (textPairs ps)) short ≠
      .ok (Binding.ofList (textPairs (ps ++ [p]))) := by
  intro h
  have held : ∀ qs : List (String × String), (qs.map (·.1)).Nodup →
      (Binding.ofList (textPairs qs)).toList = textPairs qs := fun qs hq =>
    Binding.toList_ofList (by rwa [names_textPairs])
  have distinctInit : (ps.map (·.1)).Nodup := by
    rw [List.map_append] at distinct
    exact (List.nodup_append.1 distinct).1
  rcases splitEntry_of_append (hx ▸ splitEntry_entryText he p) with hn | ⟨v, hv, hvx⟩
  · -- without a delimiter the entry is skipped or refused
    rw [readEntry, hn] at h
    split at h
    · have := congrArg Binding.toList (Except.ok.inj h)
      rw [held ps distinctInit, held _ distinct] at this
      simpa [textPairs] using congrArg List.length this
    · cases h
  · -- with one it binds the name, but to less text
    have known' : String.ofList p.1.toList ∈ fields.map (·.name) := by
      rwa [String.ofList_toList]
    rw [readEntry_of_known hv (unescape_escape _ _) known', resolveEscapes] at h
    cases hw : unescape v with
    | none => rw [hw] at h; cases h
    | some w =>
        rw [hw] at h
        have e : Binding.ofList (textPairs (ps ++ [(p.1, String.ofList w)])) =
            Binding.ofList (textPairs (ps ++ [p])) := by
          have := Except.ok.inj h
          rw [String.ofList_toList] at this
          rw [← this, textPairs, List.map_append]
          exact Binding.ofList_append_singleton _ _ _
        have same := congrArg Binding.toList e
        rw [held _ (by simpa using distinct), held _ distinct] at same
        have text : String.ofList w = p.2 := by simpa [textPairs] using same
        have whole : unescape (v ++ x) = some w := by
          rw [← hvx, unescape_escape, ← text, String.toList_ofList]
        exact ne (unescape_append_eq hw whole)

/-- **A record that a line end cuts short says less.** -/
theorem readKeyed_cut_ne (hb : entry ≠ '\\') (he : pair ≠ '\\') (hd : entry ≠ pair)
    {ps : List (String × String)} (known : ∀ p ∈ ps, p.1 ∈ fields.map (·.name))
    (named : ∀ p ∈ ps, p.1 ≠ "") (distinct : (ps.map (·.1)).Nodup) {short x : List Char}
    (hx : List.intercalate [entry] (ps.map (entryText entry pair)) = short ++ x)
    (ne : x ≠ []) (len : x.length ≤ 2) :
    readKeyed entry pair fields short ≠ .ok (Binding.ofList (textPairs ps)) := by
  rcases List.eq_nil_or_concat ps with rfl | ⟨init, p, rfl⟩
  · -- the empty record cannot be cut
    have : short ++ x = [] := by rw [← hx]; rfl
    exact absurd (List.append_eq_nil_iff.1 this).2 ne
  · rw [List.concat_eq_append] at known named distinct hx ⊢
    rw [List.map_append, List.map_singleton, intercalate_append_singleton] at hx
    -- what is cut off belongs to the last entry, which is at least as long
    have last : 2 ≤ (entryText entry pair p).length :=
      two_le_length_entryText (named p (by simp))
    obtain ⟨rest, hs, hr⟩ : ∃ rest,
        short = (init.map (entryText entry pair)).flatMap (· ++ [entry]) ++ rest ∧
          entryText entry pair p = rest ++ x := by
      rcases List.append_eq_append_iff.1 hx with ⟨a, ha, hb⟩ | ⟨a, ha, hb⟩
      · exact ⟨a, ha, hb⟩
      · have := congrArg List.length hb
        rw [List.length_append] at this
        have ha' : a = [] := List.length_eq_zero_iff.1 (by omega)
        subst ha'
        exact ⟨[], by simpa using ha.symm, by simpa using hb.symm⟩
    have unsplit : splitRaw entry rest = [rest] := by
      apply splitRaw_of_append (x := x)
      rw [← hr]
      exact splitRaw_of_unsplit (unsplit_entryText he hd p)
    by_cases hn : short = []
    · rw [hn, readKeyed, if_pos rfl]
      intro h
      have := congrArg Binding.toList (Except.ok.inj h)
      rw [Binding.toList_ofList (by rwa [names_textPairs])] at this
      simpa [Binding.toList, Binding.empty, textPairs] using congrArg List.length this
    · rw [hs] at hn ⊢
      rw [readKeyed_append hb he hd (fun q hq => known q (List.mem_append_left [p] hq)) unsplit
        hn]
      exact readEntry_cut_ne he (known p (by simp)) distinct hr ne

end Reading

/-! ## §4. The round trip. -/

/-- **Keyed records read back as they were written.** -/
theorem decode_encode_keyed {source sink : Schema} {writer : Codec} {entry pair : Char}
    {b : Binding} {s : String} (accepted : sink.codec = .ok writer)
    (layout : sink.layout = .keyed entry pair) (hb : entry ≠ '\\') (he : pair ≠ '\\')
    (matching : source.Matches sink) (written : writer.encode b = .ok s) :
    ∃ reader : Codec, source.codec = .ok reader ∧
      (Binding.ofList (textPairs (keyedTexts sink.fields b))).toList =
        textPairs (keyedTexts sink.fields b) ∧
      reader.decode (writer.charset.encode (s.toList ++ ['\r', '\n'])) =
        .ok (Binding.ofList (textPairs (keyedTexts sink.fields b))) ∧
      (reader.decode (writer.charset.encode s.toList) =
          .ok (Binding.ofList (textPairs (keyedTexts sink.fields b))) ↔
        s.toList.getLast? ≠ some '\n') := by
  obtain ⟨reader, hreader, charset, rlayout, rnames⟩ := Schema.exists_codec matching accepted
  obtain ⟨hf, hl, -, wlayout, wfields⟩ := Schema.codec_eq_ok_iff.1 accepted
  obtain ⟨hwrite, has⟩ := Codec.writeText_of_encode written
  obtain ⟨nonempty, distinct⟩ := Schema.checkFields_eq_ok_iff.1 hf
  have hd : entry ≠ pair := by
    intro e
    rw [layout, Schema.checkLayout, if_pos e] at hl
    cases hl
  rw [wfields] at rnames
  -- the names of the entries are among those of the reader, each once
  have sub := names_keyedTexts_sublist sink.fields b
  have known : ∀ p ∈ keyedTexts sink.fields b, p.1 ∈ reader.fields.map (·.name) := by
    intro p hp
    rw [rnames]
    exact sub.subset (List.mem_map_of_mem hp)
  have named : ∀ p ∈ keyedTexts sink.fields b, p.1 ≠ "" := by
    intro p hp
    obtain ⟨f, hm, e⟩ := List.mem_map.1 (sub.subset (List.mem_map_of_mem hp))
    exact e ▸ nonempty f hm
  have text : s.toList =
      List.intercalate [entry] ((keyedTexts sink.fields b).map (entryText entry pair)) := by
    apply writeKeyed_eq_ok
    rw [← hwrite, Codec.writeText, wlayout, layout, wfields]
  have hread : ∀ ds, reader.readText ds =
      readKeyed entry pair reader.fields (stripLineEnd ds) := by
    intro ds
    rw [Codec.readText, rlayout, wlayout, layout]
  have whole : readKeyed entry pair reader.fields s.toList =
      .ok (Binding.ofList (textPairs (keyedTexts sink.fields b))) := by
    rw [text]
    exact readKeyed_eq_ok hb he hd known
  have cut : ∀ p x, s.toList = p ++ x → x ≠ [] → x.length ≤ 2 →
      readKeyed entry pair reader.fields p ≠
        .ok (Binding.ofList (textPairs (keyedTexts sink.fields b))) := fun p x hs ne len =>
    readKeyed_cut_ne hb he hd known named (distinct.sublist sub) (text ▸ hs) ne len
  have held : ((textPairs (keyedTexts sink.fields b)).map (·.1)).Nodup := by
    rw [names_textPairs]
    exact distinct.sublist sub
  refine ⟨reader, hreader, Binding.toList_ofList held, ?_⟩
  rw [← charset] at has ⊢
  exact Codec.decode_line hread has whole cut

/-- A schema whose delimiters are those of line ends. -/
def lineEndEntries (charset : String) : Schema where
  charset := charset
  layout := .keyed '\n' '\r'
  fields := [{ name := "a\\" }, { name := "b" }, { name := "\r" }]

/-- The round trip of a record that ends in an escaped delimiter, a line
feed. -/
theorem decode_encode_keyed_lineEnd :
    ∃ reader : Codec, (lineEndEntries "utf8").codec = .ok reader ∧
      (Binding.ofList (textPairs (keyedTexts (lineEndEntries "UTF-8").fields
          (Binding.ofList [("\r", .text "\n"), ("a\\", .boolean true)])))).toList =
        textPairs (keyedTexts (lineEndEntries "UTF-8").fields
          (Binding.ofList [("\r", .text "\n"), ("a\\", .boolean true)])) ∧
      reader.decode (Charset.utf8.encode
          ("a\\\\\rtrue\n\\\r\r\\\n".toList ++ ['\r', '\n'])) =
        .ok (Binding.ofList (textPairs (keyedTexts (lineEndEntries "UTF-8").fields
          (Binding.ofList [("\r", .text "\n"), ("a\\", .boolean true)])))) ∧
      (reader.decode (Charset.utf8.encode "a\\\\\rtrue\n\\\r\r\\\n".toList) =
          .ok (Binding.ofList (textPairs (keyedTexts (lineEndEntries "UTF-8").fields
            (Binding.ofList [("\r", .text "\n"), ("a\\", .boolean true)])))) ↔
        "a\\\\\rtrue\n\\\r\r\\\n".toList.getLast? ≠ some '\n') := by
  have accepted : (lineEndEntries "UTF-8").codec =
      .ok ⟨.utf8, (lineEndEntries "UTF-8").layout, (lineEndEntries "UTF-8").fields⟩ := rfl
  have matching : (lineEndEntries "utf8").Matches (lineEndEntries "UTF-8") :=
    ⟨by decide +kernel, rfl, rfl⟩
  have written : Codec.encode
      ⟨.utf8, (lineEndEntries "UTF-8").layout, (lineEndEntries "UTF-8").fields⟩
      (Binding.ofList [("\r", .text "\n"), ("a\\", .boolean true)]) =
        .ok "a\\\\\rtrue\n\\\r\r\\\n" := rfl
  have trip := decode_encode_keyed accepted rfl (by decide) (by decide) matching written
  exact trip

end Recordwise.Record
