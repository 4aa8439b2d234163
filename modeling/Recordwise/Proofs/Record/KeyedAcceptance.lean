/-
  Recordwise.Proofs.Record.KeyedAcceptance
  ────────────────────────────────────────
  **Which keyed records are read, and what they bind.**

  A keyed record is cut at its bare delimiters, and every entry that is not
  blank says a text for the name in front of its first bare delimiter.  The
  record is read when every such entry has that delimiter and no backslash
  dangles at the end of the record.  One case is let through: the value of a
  name that is not known is not looked at, so behind such a name a backslash
  may dangle.  What is read are the known names, in the order in which they
  come first, each with the text that comes last.  Main statements:

      saying_eq_ok_iff            — which entries are read, and what they say
      readKeyed_eq_ok_iff         — which texts are read, and what they bind
      decode_keyed_characterized  — which records are read, and the names and
                                    values that are bound
      not_refused_behind_unknown  — a backslash that dangles is not always
                                    refused
-/
import Mathlib.Data.List.Forall2
import Recordwise.Proofs.Binding.Arrival
import Recordwise.Proofs.Record.Cutting
import Recordwise.Proofs.Record.KeyedReading

namespace Recordwise.Record

variable {entry pair : Char} {fields : List Field}

/-! ## §1. What entries say. -/

/-- What an entry says, told without a scan: nothing when it is blank, else the
name and the text on the two sides of its first bare delimiter, without their
escapes. -/
inductive Says (pair : Char) : List Char → Option (String × String) → Prop where
  /-- A blank entry says nothing. -/
  | nothing : Says pair [] none
  /-- Any other says a text for a name. -/
  | named {text key value : List Char} (parts : Parts pair text key value) :
    Says pair text (some (String.ofList (literal key), String.ofList (literal value)))

theorem says_of_splitEntry {text : List Char} (key value : List Char)
    (cut : splitEntry pair text = some (key, value)) :
    Says pair text (some (String.ofList (literal key), String.ofList (literal value))) :=
  .named (splitEntry_eq_some_iff.1 cut)

/-- An entry says one thing at most. -/
theorem Says.unique {text : List Char} {said other : Option (String × String)}
    (h : Says pair text said) (h' : Says pair text other) : said = other := by
  cases h with
  | nothing =>
      cases h' with
      | nothing => rfl
      | named parts => exact absurd parts.bare (clear_nil _)
  | named parts =>
      cases h' with
      | nothing => exact absurd parts.bare (clear_nil _)
      | named parts' =>
          obtain ⟨rfl, rfl⟩ := parts.unique parts'
          rfl

/-- An entry says something of its own unless it is not blank and has no bare
delimiter. -/
theorem exists_says_iff {text : List Char} :
    (∃ said, Says pair text said) ↔ (text ≠ [] → ∃ i, Bare pair text i) := by
  constructor
  · rintro ⟨said, content⟩ filled
    cases content with
    | nothing => exact absurd rfl filled
    | named parts => exact ⟨_, parts.bare⟩
  · intro bare
    by_cases blank : text = []
    · exact ⟨none, blank ▸ .nothing⟩
    · rcases splitEntry_cases pair text with ⟨clear, -⟩ | ⟨key, value, parts, -⟩
      · obtain ⟨i, here⟩ := bare blank
        exact absurd here (clear i)
      · exact ⟨_, .named parts⟩

/-- The names and texts said that are for known names. -/
def knownTexts (fields : List Field) (said : List (Option (String × String))) :
    List (String × String) :=
  (said.filterMap id).filter (·.1 ∈ fields.map (·.name))

/-- An entry that is read: where the name is known, no backslash dangles. -/
structure Reads (pair : Char) (fields : List Field) (text : List Char)
    (said : Option (String × String)) : Prop where
  /-- What it says. -/
  content : Says pair text said
  /-- What it says of a known name ends as a text can. -/
  whole : ∀ name s, said = some (name, s) → name ∈ fields.map (·.name) →
    trailing '\\' text % 2 = 0

theorem knownTexts_some (fields : List Field) (p : String × String) :
    knownTexts fields [some p] = if p.1 ∈ fields.map (·.name) then [p] else [] := by
  by_cases known : p.1 ∈ fields.map (·.name)
  · rw [if_pos known]
    exact List.filter_cons_of_pos (by simpa using known)
  · rw [if_neg known]
    exact List.filter_cons_of_neg (by simpa using known)

/-- An entry with a name is read unless the name is known and a backslash
dangles. -/
theorem saying_of_parts {text key value : List Char} (parts : Parts pair text key value)
    {pairs : List (String × Value)} :
    saying pair fields text = .ok pairs ↔
      (String.ofList (literal key) ∈ fields.map (·.name) → trailing '\\' text % 2 = 0) ∧
      pairs = textPairs (knownTexts fields
        [some (String.ofList (literal key), String.ofList (literal value))]) := by
  have found := splitEntry_eq_some_iff.2 parts
  unfold saying
  rw [knownTexts_some]
  by_cases known : String.ofList (literal key) ∈ fields.map (·.name)
  · rw [readEntry_of_known found parts.unescape_front known, if_pos known, resolveEscapes,
      unescape_eq, ← parts.trailing_eq]
    by_cases even : trailing '\\' text % 2 = 0
    · rw [if_pos even]
      show Except.ok [_] = .ok pairs ↔ _
      rw [Except.ok.injEq, eq_comm]
      exact ⟨fun same => ⟨fun _ => even, same⟩, And.right⟩
    · rw [if_neg even]
      refine ⟨fun read => ?_, fun h => absurd (h.1 known) even⟩
      cases read
  · -- the value of an unknown name is not looked at
    have other : ∀ f ∈ fields, f.name ≠ String.ofList (literal key) :=
      fun f listed same => known (same ▸ List.mem_map_of_mem listed)
    rw [readEntry_of_unknown found parts.unescape_front other, if_neg known]
    show Except.ok [] = .ok pairs ↔ _
    rw [Except.ok.injEq, eq_comm]
    exact ⟨fun same => ⟨fun listed => absurd listed known, same⟩, And.right⟩

/-- **Which entries are read, and what they say.** -/
theorem saying_eq_ok_iff {text : List Char} {pairs : List (String × Value)} :
    saying pair fields text = .ok pairs ↔
      ∃ said, Reads pair fields text said ∧ pairs = textPairs (knownTexts fields [said]) := by
  rcases splitEntry_cases pair text with ⟨clear, uncut⟩ | ⟨key, value, parts, -⟩
  · by_cases blank : text = []
    · subst blank
      have silent : saying pair fields [] = .ok (textPairs (knownTexts fields [none])) := rfl
      rw [silent, Except.ok.injEq]
      constructor
      · rintro rfl
        refine ⟨none, ⟨.nothing, fun name s said => ?_⟩, rfl⟩
        cases said
      · rintro ⟨said, reads, rfl⟩
        rw [reads.content.unique .nothing]
    · unfold saying
      rw [readEntry, if_neg blank, uncut]
      constructor
      · intro read
        cases read
      · rintro ⟨said, reads, -⟩
        obtain ⟨i, bare⟩ := exists_says_iff.1 ⟨said, reads.content⟩ blank
        exact absurd bare (clear i)
  · rw [saying_of_parts parts]
    constructor
    · rintro ⟨whole, same⟩
      refine ⟨_, ⟨.named parts, ?_⟩, same⟩
      intro name s said
      cases said
      exact whole
    · rintro ⟨said, reads, same⟩
      obtain rfl := reads.content.unique (.named parts)
      exact ⟨reads.whole _ _ rfl, same⟩

/-- Whether an entry is read, told without a scan. -/
theorem exists_reads_iff {text : List Char} :
    (∃ said, Reads pair fields text said) ↔
      (text ≠ [] → ∃ i, Bare pair text i) ∧
      ∀ name s, Says pair text (some (name, s)) → name ∈ fields.map (·.name) →
        trailing '\\' text % 2 = 0 := by
  rw [← exists_says_iff]
  constructor
  · rintro ⟨said, content, whole⟩
    exact ⟨⟨said, content⟩, fun name s named => whole name s (content.unique named)⟩
  · rintro ⟨⟨said, content⟩, whole⟩
    refine ⟨said, content, ?_⟩
    rintro name s rfl
    exact whole name s content

/-! ## §2. What records say. -/

theorem knownTexts_cons (fields : List Field) (s : Option (String × String))
    (said : List (Option (String × String))) :
    knownTexts fields (s :: said) = knownTexts fields [s] ++ knownTexts fields said := by
  unfold knownTexts
  rw [← List.filter_append, ← List.filterMap_append]
  rfl

theorem mapM_saying_eq_ok_iff {texts : List (List Char)} {pairs : List (List (String × Value))} :
    texts.mapM (saying pair fields) = .ok pairs ↔
      ∃ said, List.Forall₂ (Reads pair fields) texts said ∧
        pairs = said.map fun s => textPairs (knownTexts fields [s]) := by
  induction texts generalizing pairs with
  | nil =>
      constructor
      · intro read
        cases read
        exact ⟨[], .nil, rfl⟩
      · rintro ⟨said, none, rfl⟩
        cases none
        rfl
  | cons text texts ih =>
      rw [List.mapM_cons, bind_eq_ok_iff]
      constructor
      · rintro ⟨first, here, rest⟩
        obtain ⟨others, behind, same⟩ := bind_eq_ok_iff.1 rest
        cases same
        obtain ⟨s, reads, rfl⟩ := saying_eq_ok_iff.1 here
        obtain ⟨said, all, rfl⟩ := ih.1 behind
        exact ⟨s :: said, .cons reads all, rfl⟩
      · rintro ⟨said, all, rfl⟩
        cases all with
        | cons reads behind =>
            exact ⟨_, saying_eq_ok_iff.2 ⟨_, reads, rfl⟩,
              bind_eq_ok_iff.2 ⟨_, ih.2 ⟨_, behind, rfl⟩, rfl⟩⟩

theorem flatten_knownTexts (fields : List Field) (said : List (Option (String × String))) :
    (said.map fun s => textPairs (knownTexts fields [s])).flatten =
      textPairs (knownTexts fields said) := by
  induction said with
  | nil => rfl
  | cons s said ih =>
      rw [List.map_cons, List.flatten_cons, ih, knownTexts_cons fields s said]
      exact (List.map_append).symm

/-- **Which texts are read, and what they bind.** -/
theorem readKeyed_eq_ok_iff {cs : List Char} {r : Binding} :
    readKeyed entry pair fields cs = .ok r ↔
      ∃ said, List.Forall₂ (Reads pair fields) (splitRaw entry cs) said ∧
        r = Binding.ofList (textPairs (knownTexts fields said)) := by
  rw [readKeyed_eq]
  constructor
  · intro read
    cases each : (splitRaw entry cs).mapM (saying pair fields) with
    | error e =>
        rw [each] at read
        cases read
    | ok pairs =>
        rw [each] at read
        cases read
        obtain ⟨said, all, rfl⟩ := mapM_saying_eq_ok_iff.1 each
        exact ⟨said, all, congrArg Binding.ofList (flatten_knownTexts fields said)⟩
  · rintro ⟨said, all, rfl⟩
    rw [mapM_saying_eq_ok_iff.2 ⟨said, all, rfl⟩, ← flatten_knownTexts]
    rfl

theorem exists_forall₂_iff {α β : Type} {R : α → β → Prop} {as : List α} :
    (∃ bs, List.Forall₂ R as bs) ↔ ∀ a ∈ as, ∃ b, R a b := by
  induction as with
  | nil => exact ⟨fun _ => by simp, fun _ => ⟨[], .nil⟩⟩
  | cons a as ih =>
      rw [List.forall_mem_cons, ← ih]
      constructor
      · rintro ⟨bs, all⟩
        cases all with
        | cons first rest => exact ⟨⟨_, first⟩, _, rest⟩
      · rintro ⟨⟨b, first⟩, bs, rest⟩
        exact ⟨b :: bs, .cons first rest⟩

/-- **Which texts are read**, told without a scan. -/
theorem exists_readKeyed_iff {cs : List Char} {entries : List (List Char)}
    (cut : Cut entry cs entries) :
    (∃ r, readKeyed entry pair fields cs = .ok r) ↔
      (∀ e ∈ entries, e ≠ [] → ∃ i, Bare pair e i) ∧
      (trailing '\\' cs % 2 = 1 → ∀ last ∈ entries.getLast?, ∀ name s,
        Says pair last (some (name, s)) → name ∉ fields.map (·.name)) := by
  have every : (∃ r, readKeyed entry pair fields cs = .ok r) ↔
      ∀ e ∈ entries, ∃ said, Reads pair fields e said := by
    rw [← exists_forall₂_iff, cut_iff.1 cut]
    constructor
    · rintro ⟨r, read⟩
      obtain ⟨said, all, -⟩ := readKeyed_eq_ok_iff.1 read
      exact ⟨said, all⟩
    · rintro ⟨said, all⟩
      exact ⟨_, readKeyed_eq_ok_iff.2 ⟨said, all, rfl⟩⟩
  obtain ⟨init, last, rfl, evens, same⟩ := cut.exists_last
  rw [every, List.getLast?_append_of_ne_nil init (List.cons_ne_nil last [])]
  simp only [exists_reads_iff, List.getLast?_singleton, Option.mem_some_iff, forall_eq']
  constructor
  · intro reads
    refine ⟨fun e listed => (reads e listed).1, fun odd name s said known => ?_⟩
    have even := (reads last (by simp)).2 name s said known
    rw [same] at even
    omega
  · rintro ⟨bare, unknown⟩ e listed
    refine ⟨bare e listed, fun name s said known => ?_⟩
    rcases List.mem_append.1 listed with inside | behind
    · exact evens e inside
    · obtain rfl := List.mem_singleton.1 behind
      rw [same]
      by_contra odd
      exact unknown (by omega) name s said known

/-! ## §3. What is bound. -/

theorem lookup_textPairs (ps : List (String × String)) (name : String) :
    (textPairs ps).lookup name = (ps.lookup name).map .text := by
  induction ps with
  | nil => rfl
  | cons p ps ih =>
      show List.lookup name ((p.1, .text p.2) :: textPairs ps) = _
      rw [List.lookup_cons, List.lookup_cons, ih]
      cases name == p.1 <;> rfl

/-- Names and texts bind the names in order of first arrival. -/
theorem names_ofList_textPairs (ps : List (String × String)) :
    (Binding.ofList (textPairs ps)).names = (ps.map (·.1)).eraseDups := by
  rw [Binding.names_ofList, names_textPairs]

/-- Names and texts bind each name to the text that arrives last. -/
theorem get?_ofList_textPairs (ps : List (String × String)) (name : String) :
    (Binding.ofList (textPairs ps)).get? name = (ps.reverse.lookup name).map .text := by
  rw [Binding.get?_ofList, ← lookup_textPairs]
  unfold textPairs
  rw [List.map_reverse]

/-! ## §4. Records. -/

/-- A record is read when it is a text and that text is. -/
theorem decode_eq_ok_iff_of_keyed {codec : Codec} (layout : codec.layout = .keyed entry pair)
    {bytes : List UInt8} {cs : List Char} (encoded : codec.charset.IsText bytes cs)
    {r : Binding} : codec.decode bytes = .ok r ↔
      readKeyed entry pair codec.fields (stripLineEnd cs) = .ok r := by
  unfold Codec.decode
  rw [Charset.decode_eq_ok_iff.2 encoded]
  show codec.readText cs = .ok r ↔ _
  unfold Codec.readText
  rw [layout]

/-- **Which keyed records are read, and what they bind.**  The bytes are a text
of the character set, which without a line end is cut into entries at the bare
delimiters between them.  It is read when a delimiter stands bare in every
entry that is not blank, and no run of backslashes of odd length ends it, or
the name of the last entry is not known.  Bound are then the known names, in
the order in which they come first, each to the text that comes last.  Any
other record is refused as one that cannot be decoded. -/
theorem decode_keyed_characterized {schema : Schema} {codec : Codec}
    (accepted : schema.codec = .ok codec) (layout : schema.layout = .keyed entry pair)
    {bytes : List UInt8} {cs : List Char} (encoded : codec.charset.IsText bytes cs) :
    ∃ entries : List (List Char), (∀ es, Cut entry (stripLineEnd cs) es ↔ es = entries) ∧
      ((∃ r, codec.decode bytes = .ok r) ↔
        (∀ e ∈ entries, e ≠ [] → ∃ i, Bare pair e i) ∧
        (trailing '\\' (stripLineEnd cs) % 2 = 1 → ∀ last ∈ entries.getLast?, ∀ name s,
          Says pair last (some (name, s)) → name ∉ schema.fields.map (·.name))) ∧
      (∀ r, codec.decode bytes = .ok r → ∃ said : List (Option (String × String)),
        List.Forall₂ (Says pair) entries said ∧
        r.names = ((knownTexts schema.fields said).map (·.1)).eraseDups ∧
        ∀ name, r.get? name = ((knownTexts schema.fields said).reverse.lookup name).map .text) ∧
      ∀ f, codec.decode bytes = .error f → f.IsDecode := by
  obtain ⟨-, -, -, same, fields⟩ := Schema.codec_eq_ok_iff.1 accepted
  have reading (r : Binding) : codec.decode bytes = .ok r ↔
      readKeyed entry pair codec.fields (stripLineEnd cs) = .ok r :=
    decode_eq_ok_iff_of_keyed (same.trans layout) encoded
  rw [← fields]
  refine ⟨splitRaw entry (stripLineEnd cs), fun es => cut_iff, ?_, ?_,
    Codec.decode_failsWith codec bytes⟩
  · simp only [reading]
    exact exists_readKeyed_iff (cut_splitRaw entry (stripLineEnd cs))
  · intro r read
    obtain ⟨said, all, rfl⟩ := readKeyed_eq_ok_iff.1 ((reading r).1 read)
    refine ⟨said, all.imp fun _ _ reads => reads.content, names_ofList_textPairs _, ?_⟩
    exact get?_ofList_textPairs _

/-- A record with a blank entry, a name that comes twice, an escaped delimiter
and, behind a name that is not known, a backslash that dangles. -/
theorem decode_keyed_repeated :
    ∃ r, Codec.decode ⟨.utf8, .keyed '&' '=', [{ name := "a" }, { name := "b" }]⟩
        (Charset.utf8.encode "a=1&b=x\\&y&&a=2&c=z\\\r\n".toList) = .ok r ∧
      r.names = ["a", "b"] ∧ r.get? "a" = some (.text "2") ∧ r.get? "b" = some (.text "x&y") := by
  have accepted : Schema.codec ⟨"UTF-8", .keyed '&' '=', [{ name := "a" }, { name := "b" }]⟩ =
      .ok ⟨.utf8, .keyed '&' '=', [{ name := "a" }, { name := "b" }]⟩ := rfl
  have encoded : Charset.utf8.IsText (Charset.utf8.encode "a=1&b=x\\&y&&a=2&c=z\\\r\n".toList)
      "a=1&b=x\\&y&&a=2&c=z\\\r\n".toList := ⟨fun _ _ => rfl, rfl⟩
  have escaped : Says '=' "b=x\\&y".toList (some ("b", "x&y")) :=
    says_of_splitEntry ['b'] "x\\&y".toList (by decide +kernel)
  have content : List.Forall₂ (Says '=')
      ["a=1".toList, "b=x\\&y".toList, [], "a=2".toList, "c=z\\".toList]
      [some ("a", "1"), some ("b", "x&y"), none, some ("a", "2"), some ("c", "z")] :=
    .cons (says_of_splitEntry ['a'] ['1'] rfl) (.cons escaped
      (.cons .nothing (.cons (says_of_splitEntry ['a'] ['2'] rfl)
        (.cons (says_of_splitEntry ['c'] ['z', '\\'] rfl) .nil))))
  obtain ⟨entries, one, reads, binds, -⟩ := decode_keyed_characterized accepted rfl encoded
  obtain rfl : ["a=1".toList, "b=x\\&y".toList, [], "a=2".toList, "c=z\\".toList] = entries :=
    (one _).1 (cut_iff.2 (by decide +kernel))
  have bare : ∀ e ∈ ["a=1".toList, "b=x\\&y".toList, [], "a=2".toList, "c=z\\".toList],
      e ≠ [] → ∃ i, Bare '=' e i := by
    simp only [List.forall_mem_cons]
    exact ⟨fun _ => ⟨1, by decide⟩, fun _ => ⟨1, by decide⟩, nofun, fun _ => ⟨1, by decide⟩,
      fun _ => ⟨1, by decide⟩, by simp⟩
  have unknown : ∀ name s, Says '=' "c=z\\".toList (some (name, s)) → name ∉ ["a", "b"] := by
    intro name s said
    cases said.unique (says_of_splitEntry ['c'] ['z', '\\'] rfl)
    decide
  obtain ⟨r, read⟩ := reads.2 ⟨bare, fun _ last behind => Option.some.inj behind ▸ unknown⟩
  obtain ⟨said, all, names, values⟩ := binds r read
  have determined : Relator.RightUnique (Says '=') := fun _ _ _ => Says.unique
  obtain rfl := List.right_unique_forall₂' determined all content
  exact ⟨r, read, names, values "a", values "b"⟩

/-- A backslash that dangles is not always refused: behind a name that is not
known it is let through. -/
theorem not_refused_behind_unknown :
    ¬ ∀ (schema : Schema) (codec : Codec) (entry pair : Char) (bytes : List UInt8) (cs : List Char)
        (r : Binding), schema.codec = .ok codec → schema.layout = .keyed entry pair →
        codec.charset.IsText bytes cs → codec.decode bytes = .ok r →
        trailing '\\' (stripLineEnd cs) % 2 = 0 := by
  intro claimed
  have even := claimed ⟨"UTF-8", .defaultKeyed, [{ name := "a" }]⟩
    ⟨.utf8, .defaultKeyed, [{ name := "a" }]⟩ '&' '=' [99, 61, 49, 92] ['c', '=', '1', '\\']
    Binding.empty rfl rfl ⟨fun _ _ => rfl, rfl⟩ rfl
  exact absurd even (by decide)

end Recordwise.Record
