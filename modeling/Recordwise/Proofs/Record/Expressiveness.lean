/-
  Recordwise.Proofs.Record.Expressiveness
  ───────────────────────────────────────
  **Which names and texts a keyed layout can carry.**

  Names and texts are carried when some record is read as them, in their
  order.  With two delimiters that are not the backslash this holds of all
  distinct known names, whatever the texts: written with escapes, they read
  back.  A backslash never stands bare, so as a delimiter it separates
  nothing.  Between entries it leaves records of one entry; between name and
  value it leaves the empty record only.  Such delimiters are accepted all the
  same.  Main statements:

      yields_iff       — which names and texts are carried
      isExpressive_iff — which layouts carry all of them
      not_isExpressive — some that do not are accepted
-/
import Recordwise.Proofs.Record.KeyedAcceptance

namespace Recordwise

open Record

namespace Codec

/-- Some record is read as exactly these names and texts, in this order. -/
def Yields (codec : Codec) (ps : List (String × String)) : Prop :=
  ∃ bytes r, codec.decode bytes = .ok r ∧ r.toList = textPairs ps

/-- Every assignment of texts to distinct names of fields is what some record
is read as. -/
def IsExpressive (codec : Codec) : Prop :=
  ∀ ps : List (String × String), (ps.map (·.1)).Nodup →
    (∀ p ∈ ps, p.1 ∈ codec.fields.map (·.name)) → codec.Yields ps

end Codec

namespace Record

variable {entry pair : Char} {fields : List Field}

/-! ## §1. Records that are written. -/

/-- A record of one entry binds it, even when nothing separates entries. -/
theorem readKeyed_entryText (he : pair ≠ '\\') (hd : entry ≠ pair) {p : String × String}
    (known : p.1 ∈ fields.map (·.name)) :
    readKeyed entry pair fields (entryText entry pair p) =
      .ok (Binding.ofList (textPairs [p])) := by
  rw [readKeyed, if_neg (entryText_ne_nil p), splitRaw_of_unsplit (unsplit_entryText he hd p),
    List.foldlM_cons, readEntry_entryText he known]
  rfl

/-- **What is written is read**: by all layouts that have a bare delimiter
where the record needs one. -/
theorem exists_readKeyed_eq_ok (hd : entry ≠ pair) {ps : List (String × String)}
    (known : ∀ p ∈ ps, p.1 ∈ fields.map (·.name))
    (separable : ps = [] ∨ pair ≠ '\\' ∧ (entry ≠ '\\' ∨ ps.length = 1)) :
    ∃ cs, readKeyed entry pair fields cs = .ok (Binding.ofList (textPairs ps)) := by
  rcases separable with rfl | ⟨he, hb | single⟩
  · exact ⟨[], rfl⟩
  · exact ⟨_, readKeyed_eq_ok hb he hd known⟩
  · obtain ⟨p, rfl⟩ := List.length_eq_one_iff.1 single
    exact ⟨_, readKeyed_entryText he hd (known p List.mem_cons_self)⟩

/-! ## §2. Records that are read. -/

/-- A backslash cuts nothing. -/
theorem splitRaw_backslash (cs : List Char) : splitRaw '\\' cs = [cs] :=
  (cut_iff.1 (.whole fun _ bare => bare.1 rfl)).symm

/-- A name is read off a delimiter that is not the backslash. -/
theorem ne_backslash_of_known {texts : List (List Char)} {said : List (Option (String × String))}
    (all : List.Forall₂ (Reads pair fields) texts said) (some_known : knownTexts fields said ≠ []) :
    pair ≠ '\\' := by
  obtain ⟨p, known⟩ := List.exists_mem_of_ne_nil _ some_known
  obtain ⟨s, among, named⟩ := List.mem_filterMap.1 (List.mem_filter.1 known).1
  obtain rfl : s = some p := named
  obtain ⟨text, reads⟩ := exists_forall₂_iff.1 ⟨texts, all.flip⟩ _ among
  cases reads.content with
  | named parts => exact parts.ne_backslash

/-- **What is read is separated**: the names that a text binds stand in front of
a bare delimiter, and several of them have one between their entries. -/
theorem separable_of_readKeyed {cs : List Char} {r : Binding}
    (read : readKeyed entry pair fields cs = .ok r) :
    r.names = [] ∨ pair ≠ '\\' ∧ (entry ≠ '\\' ∨ r.names.length = 1) := by
  obtain ⟨said, all, rfl⟩ := readKeyed_eq_ok_iff.1 read
  rw [names_ofList_textPairs]
  by_cases nothing : knownTexts fields said = []
  · left
    rw [nothing]
    rfl
  · refine .inr ⟨ne_backslash_of_known all nothing, ?_⟩
    by_cases he : entry = '\\'
    · -- one entry, so one name
      right
      rw [he, splitRaw_backslash] at all
      obtain ⟨s, one, rfl⟩ : ∃ s, Reads pair fields cs s ∧ said = [s] := by
        cases all with
        | cons reads behind =>
            cases behind
            exact ⟨_, reads, rfl⟩
      cases s with
      | none => exact absurd rfl nothing
      | some p =>
          rw [knownTexts_some] at nothing ⊢
          by_cases known : p.1 ∈ fields.map (·.name)
          · rw [if_pos known]
            rfl
          · rw [if_neg known] at nothing
            exact absurd rfl nothing
    · exact .inl he

end Record

/-! ## §3. Which layouts are expressive. -/

namespace Codec

variable {schema : Schema} {codec : Codec} {entry pair : Char}

/-- **Which names and texts a keyed layout carries**: none, a single one when
the delimiter behind its name is not the backslash, and several when the
delimiter between entries is not either. -/
theorem yields_iff (accepted : schema.codec = .ok codec)
    (layout : schema.layout = .keyed entry pair) (charset : codec.charset = .utf8)
    {ps : List (String × String)} (distinct : (ps.map (·.1)).Nodup)
    (known : ∀ p ∈ ps, p.1 ∈ codec.fields.map (·.name)) :
    codec.Yields ps ↔ ps = [] ∨ pair ≠ '\\' ∧ (entry ≠ '\\' ∨ ps.length = 1) := by
  obtain ⟨-, checked, -, same, -⟩ := Schema.codec_eq_ok_iff.1 accepted
  have keyed : codec.layout = .keyed entry pair := same.trans layout
  constructor
  · rintro ⟨bytes, r, read, held⟩
    obtain ⟨cs, decoded, -⟩ := bind_eq_ok_iff.1 read
    have encoded := Charset.decode_eq_ok_iff.1 decoded
    have names : r.names = ps.map (·.1) := by
      rw [← names_textPairs, ← held]
      rfl
    simpa [names] using separable_of_readKeyed ((decode_eq_ok_iff_of_keyed keyed encoded).1 read)
  · intro separable
    have hd : entry ≠ pair := Schema.ne_of_checkLayout (layout ▸ checked)
    obtain ⟨cs, read⟩ := exists_readKeyed_eq_ok hd known separable
    -- the line end is the one that is removed
    have encoded : codec.charset.IsText (Charset.utf8.encode (cs ++ ['\r', '\n']))
        (cs ++ ['\r', '\n']) := by
      rw [charset]
      exact ⟨fun _ _ => rfl, rfl⟩
    refine ⟨_, _, (decode_eq_ok_iff_of_keyed keyed encoded).2 ?_, Binding.toList_ofList ?_⟩
    · rw [stripLineEnd_append_crlf, read]
    · rwa [names_textPairs]

/-- **Which keyed layouts carry every assignment of texts to names**: those
without a backslash among their delimiters, and where a single name or none is
to be carried, those that separate what is left to separate. -/
theorem isExpressive_iff (accepted : schema.codec = .ok codec)
    (layout : schema.layout = .keyed entry pair) (charset : codec.charset = .utf8) :
    codec.IsExpressive ↔
      schema.fields = [] ∨ pair ≠ '\\' ∧ (entry ≠ '\\' ∨ schema.fields.length = 1) := by
  obtain ⟨checked, -, -, -, fields⟩ := Schema.codec_eq_ok_iff.1 accepted
  obtain ⟨-, once⟩ := Schema.checkFields_eq_ok_iff.1 checked
  rw [← fields] at once ⊢
  constructor
  · intro expressive
    -- all names at once, with the empty text each
    let ps := codec.fields.map fun f => (f.name, "")
    have names : ps.map (·.1) = codec.fields.map (·.name) := by
      rw [List.map_map]
      rfl
    have distinct : (ps.map (·.1)).Nodup := names ▸ once
    have known : ∀ p ∈ ps, p.1 ∈ codec.fields.map (·.name) :=
      fun p listed => names ▸ List.mem_map_of_mem listed
    simpa [ps] using (yields_iff accepted layout charset distinct known).1
      (expressive ps distinct known)
  · intro separable ps distinct known
    have few : ps.length ≤ codec.fields.length := by
      have sub : ps.map (·.1) ⊆ codec.fields.map (·.name) := by
        intro name listed
        obtain ⟨p, among, rfl⟩ := List.mem_map.1 listed
        exact known p among
      simpa using (List.subperm_of_subset distinct sub).length_le
    rw [yields_iff accepted layout charset distinct known]
    rcases separable with none_known | ⟨he, hb | single⟩
    · rw [none_known, List.length_nil, Nat.le_zero, List.length_eq_zero_iff] at few
      exact .inl few
    · exact .inr ⟨he, .inl hb⟩
    · rw [single] at few
      rcases Nat.le_one_iff_eq_zero_or_eq_one.1 few with none | one
      · exact .inl (List.length_eq_zero_iff.1 none)
      · exact .inr ⟨he, .inr one⟩

/-- A backslash between entries does for one field, and not for two. -/
theorem isExpressive_oneField :
    IsExpressive ⟨.utf8, .keyed '\\' '=', [{ name := "a" }]⟩ ∧
      ¬ IsExpressive ⟨.utf8, .keyed '\\' '=', [{ name := "a" }, { name := "b" }]⟩ := by
  have accepted : Schema.codec ⟨"UTF-8", .keyed '\\' '=', [{ name := "a" }]⟩ =
      .ok ⟨.utf8, .keyed '\\' '=', [{ name := "a" }]⟩ := rfl
  have accepted' : Schema.codec ⟨"UTF-8", .keyed '\\' '=', [{ name := "a" }, { name := "b" }]⟩ =
      .ok ⟨.utf8, .keyed '\\' '=', [{ name := "a" }, { name := "b" }]⟩ := rfl
  have one := isExpressive_iff accepted rfl rfl
  have two := isExpressive_iff accepted' rfl rfl
  exact ⟨one.2 (by decide), fun expressive => absurd (two.1 expressive) (by decide)⟩

/-- With a backslash between name and value not even one text is carried, and
yet the layout is accepted. -/
theorem not_isExpressive :
    ¬ ∀ (schema : Schema) (codec : Codec) (entry pair : Char), schema.codec = .ok codec →
        schema.layout = .keyed entry pair → codec.charset = .utf8 → codec.IsExpressive := by
  intro claimed
  have accepted : Schema.codec ⟨"UTF-8", .keyed '&' '\\', [{ name := "a" }]⟩ =
      .ok ⟨.utf8, .keyed '&' '\\', [{ name := "a" }]⟩ := rfl
  have yields := claimed _ _ '&' '\\' accepted rfl rfl [("a", "1")] (by decide) (by decide)
  rw [yields_iff accepted rfl rfl (by decide) (by decide)] at yields
  exact absurd yields (by decide)

end Codec

end Recordwise
