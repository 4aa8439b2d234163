/-
  Recordwise.Proofs.Record.Cutting
  ────────────────────────────────
  **Where texts are cut, and what is left when escapes are resolved.**

  A delimiter stands bare when it is not the backslash and the run of
  backslashes in front of it has even length.  That is a property of a place
  in the text, and three scans agree with it although each keeps account of
  escapes in its own way: an entry ends its name at the first bare delimiter,
  a record is cut at all of them, and resolving drops every backslash that
  takes a character.  So splitting in one pass, escapes resolved on the way,
  and cutting first and resolving the parts come to the same.  Main
  statements:

      splitEntry_cases       — the first bare delimiter, or there is none
      cut_iff                — a text has one cut, and `splitRaw` finds it
      unescape_eq            — resolving drops the escapes, unless one dangles
      splitEscaped_twoPasses — one pass and two agree
-/
import Recordwise.Proofs.Failure.EveryMember
import Recordwise.Proofs.Record.Acceptance

namespace Recordwise.Record

variable {delimiter : Char}

/-! ## §1. Bare delimiters. -/

/-- A delimiter stands bare at a place of a text: it is not the backslash, and
the run of backslashes in front of it has even length. -/
def Bare (delimiter : Char) (cs : List Char) (i : Nat) : Prop :=
  delimiter ≠ '\\' ∧ cs[i]? = some delimiter ∧ trailing '\\' (cs.take i) % 2 = 0

instance (cs : List Char) (i : Nat) : Decidable (Bare delimiter cs i) :=
  inferInstanceAs (Decidable (_ ∧ _))

/-- No delimiter stands bare in a text. -/
def Clear (delimiter : Char) (cs : List Char) : Prop := ∀ i, ¬ Bare delimiter cs i

theorem bare_zero {c : Char} {cs : List Char} :
    Bare delimiter (c :: cs) 0 ↔ delimiter ≠ '\\' ∧ c = delimiter := by
  simp [Bare, trailing]

theorem bare_plain_cons {c : Char} (h : c ≠ '\\') {cs : List Char} {i : Nat} :
    Bare delimiter (c :: cs) (i + 1) ↔ Bare delimiter cs i := by
  unfold Bare
  rw [List.getElem?_cons_succ, List.take_succ_cons, trailing_plain_cons h]

/-- What a backslash takes is not bare. -/
theorem not_bare_taken {x : Char} {cs : List Char} : ¬ Bare delimiter ('\\' :: x :: cs) 1 := by
  simp [Bare, trailing]

theorem bare_esc_cons {x : Char} {cs : List Char} {i : Nat} :
    Bare delimiter ('\\' :: x :: cs) (i + 2) ↔ Bare delimiter cs i := by
  unfold Bare
  rw [List.getElem?_cons_succ, List.getElem?_cons_succ, List.take_succ_cons, List.take_succ_cons,
    trailing_pair]

/-- Whether a delimiter stands bare is not decided behind it. -/
theorem bare_append {p q : List Char} {i : Nat} (h : i < p.length) :
    Bare delimiter (p ++ q) i ↔ Bare delimiter p i := by
  unfold Bare
  rw [List.getElem?_append_left h, List.take_append_of_le_length (Nat.le_of_lt h)]

theorem clear_nil : Clear delimiter [] := fun i bare => by simp [Bare] at bare

theorem clear_backslash : Clear delimiter ['\\'] := by
  intro i bare
  cases i with
  | zero => exact absurd (bare_zero.1 bare).2.symm bare.1
  | succ i => simp [Bare] at bare

theorem clear_plain_cons {c : Char} (he : c ≠ '\\') (hd : c ≠ delimiter) {cs : List Char}
    (h : Clear delimiter cs) : Clear delimiter (c :: cs) := by
  intro i bare
  cases i with
  | zero => exact hd (bare_zero.1 bare).2
  | succ i => exact h i ((bare_plain_cons he).1 bare)

theorem clear_esc_cons {x : Char} {cs : List Char} (h : Clear delimiter cs) :
    Clear delimiter ('\\' :: x :: cs) := by
  intro i bare
  match i with
  | 0 => exact absurd (bare_zero.1 bare).2.symm bare.1
  | 1 => exact not_bare_taken bare
  | i + 2 => exact h i (bare_esc_cons.1 bare)

/-! ## §2. The first bare delimiter. -/

/-- A text is a front, the first delimiter that stands bare in it, and the
rest. -/
structure Parts (delimiter : Char) (cs front rest : List Char) : Prop where
  /-- The text, put together. -/
  text_eq : cs = front ++ delimiter :: rest
  /-- None stands bare in front of it. -/
  clear : Clear delimiter front
  /-- It stands bare. -/
  bare : Bare delimiter cs front.length

namespace Parts

variable {cs front rest : List Char}

theorem ne_backslash (h : Parts delimiter cs front rest) : delimiter ≠ '\\' := h.bare.1

/-- No backslash dangles in front of the delimiter. -/
theorem even (h : Parts delimiter cs front rest) : trailing '\\' front % 2 = 0 := by
  have run := h.bare.2.2
  rwa [h.text_eq, List.take_left] at run

theorem length_lt (h : Parts delimiter cs front rest) : rest.length < cs.length := by
  rw [h.text_eq, List.length_append, List.length_cons]
  omega

/-- A text has one first bare delimiter. -/
theorem unique {front' rest' : List Char} (h : Parts delimiter cs front rest)
    (h' : Parts delimiter cs front' rest') : front = front' ∧ rest = rest' := by
  -- a bare delimiter inside the other front is excluded, so neither is shorter
  have least : ∀ {f r g s : List Char}, Parts delimiter cs f r → Parts delimiter cs g s →
      ¬ f.length < g.length := by
    intro f r g s first other shorter
    have inside := first.bare
    rw [other.text_eq, bare_append shorter] at inside
    exact other.clear _ inside
  have same : front.length = front'.length := by
    have := least h h'
    have := least h' h
    omega
  obtain ⟨rfl, behind⟩ := List.append_inj (h.text_eq.symm.trans h'.text_eq) same
  exact ⟨rfl, (List.cons.inj behind).2⟩

theorem plain_cons {c : Char} (he : c ≠ '\\') (hd : c ≠ delimiter)
    (h : Parts delimiter cs front rest) : Parts delimiter (c :: cs) (c :: front) rest where
  text_eq := congrArg (c :: ·) h.text_eq
  clear := clear_plain_cons he hd h.clear
  bare := (bare_plain_cons he).2 h.bare

theorem esc_cons {x : Char} (h : Parts delimiter cs front rest) :
    Parts delimiter ('\\' :: x :: cs) ('\\' :: x :: front) rest where
  text_eq := congrArg ('\\' :: x :: ·) h.text_eq
  clear := clear_esc_cons h.clear
  bare := bare_esc_cons.2 h.bare

end Parts

/-- **Cutting an entry finds the first bare delimiter**, or there is none. -/
theorem splitEntry_cases (delimiter : Char) (cs : List Char) :
    (Clear delimiter cs ∧ splitEntry delimiter cs = none) ∨
      ∃ front rest, Parts delimiter cs front rest ∧
        splitEntry delimiter cs = some (front, rest) := by
  -- along the scan, which passes one character or a backslash with what it takes
  induction cs using splitEntry.induct delimiter with
  | case1 => exact .inl ⟨clear_nil, rfl⟩
  | case2 => exact .inl ⟨clear_backslash, by simp [splitEntry]⟩
  | case3 x r ih =>
      rw [splitEntry_esc_cons]
      rcases ih with ⟨clear, none⟩ | ⟨front, rest, parts, found⟩
      · exact .inl ⟨clear_esc_cons clear, by rw [none]; rfl⟩
      · exact .inr ⟨_, _, parts.esc_cons, by rw [found]; rfl⟩
  | case4 r hd =>
      exact .inr ⟨[], r, ⟨rfl, clear_nil, bare_zero.2 ⟨hd, rfl⟩⟩, splitEntry_pair_cons hd r⟩
  | case5 c r he hd ih =>
      rw [splitEntry_plain_cons he hd]
      rcases ih with ⟨clear, none⟩ | ⟨front, rest, parts, found⟩
      · exact .inl ⟨clear_plain_cons he hd clear, by rw [none]; rfl⟩
      · exact .inr ⟨_, _, parts.plain_cons he hd, by rw [found]; rfl⟩

theorem splitEntry_eq_some_iff {cs front rest : List Char} :
    splitEntry delimiter cs = some (front, rest) ↔ Parts delimiter cs front rest := by
  rcases splitEntry_cases delimiter cs with ⟨clear, none⟩ | ⟨front', rest', parts, found⟩
  · rw [none]
    refine ⟨nofun, fun h => ?_⟩
    exact absurd h.bare (clear _)
  · rw [found, Option.some.injEq, Prod.mk.injEq]
    constructor
    · rintro ⟨rfl, rfl⟩
      exact parts
    · exact parts.unique

/-! ## §3. All bare delimiters. -/

/-- A text cut at all delimiters that stand bare in it. -/
inductive Cut (delimiter : Char) : List Char → List (List Char) → Prop where
  /-- None stands bare. -/
  | whole {cs : List Char} (clear : Clear delimiter cs) : Cut delimiter cs [cs]
  /-- The front of the first that does is a part, and the rest is cut. -/
  | next {cs front rest : List Char} {parts : List (List Char)}
    (first : Parts delimiter cs front rest) (behind : Cut delimiter rest parts) :
    Cut delimiter cs (front :: parts)

/-- A text has one cut. -/
theorem Cut.unique {cs : List Char} {ps qs : List (List Char)} (h : Cut delimiter cs ps)
    (h' : Cut delimiter cs qs) : ps = qs := by
  induction h generalizing qs with
  | whole clear =>
      cases h' with
      | whole _ => rfl
      | next first _ => exact absurd first.bare (clear _)
  | next first _ ih =>
      cases h' with
      | whole clear => exact absurd first.bare (clear _)
      | next first' behind' =>
          obtain ⟨rfl, rfl⟩ := first.unique first'
          rw [ih behind']

/-- Splitting a record is cutting off one entry after the other. -/
theorem splitRaw_eq (delimiter : Char) (cs : List Char) :
    splitRaw delimiter cs =
      match splitEntry delimiter cs with
      | none => [cs]
      | some (front, rest) => front :: splitRaw delimiter rest := by
  induction cs using splitRaw.induct delimiter with
  | case1 => rfl
  | case2 => simp [splitRaw, splitEntry]
  | case3 x r ih =>
      rw [splitRaw_esc_cons, ih, splitEntry_esc_cons]
      cases splitEntry delimiter r <;> rfl
  | case4 r hd => rw [splitRaw_delimiter_cons hd, splitEntry_pair_cons hd]
  | case5 c r he hd ih =>
      rw [splitRaw_plain_cons he hd, ih, splitEntry_plain_cons he hd]
      cases splitEntry delimiter r <;> rfl

theorem cut_splitRaw (delimiter : Char) (cs : List Char) :
    Cut delimiter cs (splitRaw delimiter cs) := by
  -- on the length, since the rest is not the tail
  induction hn : cs.length using Nat.strongRecOn generalizing cs with
  | ind n ih =>
      rw [splitRaw_eq]
      rcases splitEntry_cases delimiter cs with ⟨clear, none⟩ | ⟨front, rest, first, found⟩
      · rw [none]
        exact .whole clear
      · rw [found]
        exact .next first (ih rest.length (hn ▸ first.length_lt) rest rfl)

/-- **A text has one cut, and splitting the record finds it.** -/
theorem cut_iff {cs : List Char} {parts : List (List Char)} :
    Cut delimiter cs parts ↔ parts = splitRaw delimiter cs :=
  ⟨fun h => h.unique (cut_splitRaw delimiter cs), fun h => h ▸ cut_splitRaw delimiter cs⟩

/-- A run of escape characters ends at any other character. -/
theorem trailing_append_plain {esc c : Char} (h : c ≠ esc) (p cs : List Char) :
    trailing esc (p ++ c :: cs) = trailing esc cs := by
  unfold trailing
  rw [List.reverse_append, List.reverse_cons, List.append_assoc, List.singleton_append,
    List.takeWhile_append, List.takeWhile_cons_of_neg (by simpa using h), List.append_nil]
  split
  · next whole => exact whole.symm
  · rfl

theorem Parts.trailing_eq {cs front rest : List Char} (h : Parts delimiter cs front rest) :
    trailing '\\' cs = trailing '\\' rest := by
  rw [h.text_eq, trailing_append_plain h.ne_backslash]

/-- No backslash dangles in a part but the last, and it does there when it does
in the text. -/
theorem Cut.exists_last {cs : List Char} {parts : List (List Char)} (h : Cut delimiter cs parts) :
    ∃ init last, parts = init ++ [last] ∧ (∀ p ∈ init, trailing '\\' p % 2 = 0) ∧
      trailing '\\' last = trailing '\\' cs := by
  induction h with
  | @whole cs clear => exact ⟨[], cs, rfl, by simp, rfl⟩
  | @next cs front rest parts first behind ih =>
      obtain ⟨init, last, rfl, evens, same⟩ := ih
      refine ⟨front :: init, last, rfl, ?_, same.trans first.trailing_eq.symm⟩
      exact List.forall_mem_cons.2 ⟨first.even, evens⟩

/-! ## §4. What escapes leave. -/

/-- A text without the backslashes that take a character: those with a run of
even length in front of them. -/
def literal (cs : List Char) : List Char :=
  (List.range cs.length).filterMap fun i =>
    if cs[i]? = some '\\' ∧ trailing '\\' (cs.take i) % 2 = 0 then none else cs[i]?

theorem literal_plain_cons {c : Char} (h : c ≠ '\\') (cs : List Char) :
    literal (c :: cs) = c :: literal cs := by
  unfold literal
  rw [List.length_cons, List.range_succ_eq_map, List.filterMap_cons_some (b := c) (by simp [h]),
    List.filterMap_map]
  congr 2
  funext i
  show (if (c :: cs)[i + 1]? = some '\\' ∧ trailing '\\' ((c :: cs).take (i + 1)) % 2 = 0 then none
    else (c :: cs)[i + 1]?) = _
  rw [List.getElem?_cons_succ, List.take_succ_cons, trailing_plain_cons h]

theorem literal_esc_cons (x : Char) (cs : List Char) :
    literal ('\\' :: x :: cs) = x :: literal cs := by
  unfold literal
  have taken : trailing '\\' ['\\'] = 1 := by simp [trailing]
  rw [List.length_cons, List.length_cons, List.range_succ_eq_map, List.range_succ_eq_map,
    List.filterMap_cons_none (by simp [trailing]), List.map_cons,
    List.filterMap_cons_some (b := x) (by simp [taken]), List.filterMap_map, List.filterMap_map]
  congr 2
  funext i
  show (if ('\\' :: x :: cs)[i + 2]? = some '\\' ∧
      trailing '\\' (('\\' :: x :: cs).take (i + 2)) % 2 = 0 then none
    else ('\\' :: x :: cs)[i + 2]?) = _
  rw [List.getElem?_cons_succ, List.getElem?_cons_succ, List.take_succ_cons, List.take_succ_cons,
    trailing_pair]

/-- **Resolving drops the escapes**, unless a backslash dangles. -/
theorem unescape_eq (cs : List Char) :
    unescape cs = if trailing '\\' cs % 2 = 0 then some (literal cs) else none := by
  induction cs using unescape.induct with
  | case1 => rfl
  | case2 => simp [unescape, trailing]
  | case3 c cs ih =>
      rw [unescape_esc_cons, ih, trailing_pair, literal_esc_cons]
      split <;> rfl
  | case4 c cs dangling taking ih =>
      have plain : c ≠ '\\' := by
        rintro rfl
        cases cs with
        | nil => exact dangling rfl rfl
        | cons x cs => exact taking x cs rfl rfl
      rw [unescape_plain_cons plain, ih, trailing_plain_cons plain, literal_plain_cons plain]
      split <;> rfl

theorem unescape_eq_some_iff {cs t : List Char} :
    unescape cs = some t ↔ trailing '\\' cs % 2 = 0 ∧ t = literal cs := by
  rw [unescape_eq]
  by_cases even : trailing '\\' cs % 2 = 0
  · rw [if_pos even, Option.some.injEq, eq_comm]
    exact ⟨fun same => ⟨even, same⟩, And.right⟩
  · rw [if_neg even]
    exact ⟨nofun, fun h => absurd h.1 even⟩

/-- The front of a bare delimiter can be resolved. -/
theorem Parts.unescape_front {cs front rest : List Char} (h : Parts delimiter cs front rest) :
    unescape front = some (literal front) :=
  unescape_eq_some_iff.2 ⟨h.even, rfl⟩

/-! ## §5. One pass and two. -/

/-- A front that resolves to one character resolves to it in the first part. -/
theorem mapM_unescape_cons (front : List Char → List Char) {x : Char}
    (resolves : ∀ p, unescape (front p) = (unescape p).map (x :: ·)) (p : List Char)
    (ps : List (List Char)) :
    (front p :: ps).mapM unescape = ((p :: ps).mapM unescape).map (consHead x) := by
  rw [List.mapM_cons, List.mapM_cons, resolves]
  cases unescape p with
  | none => rfl
  | some t => cases ps.mapM unescape <;> rfl

/-- **Splitting in one pass is cutting and then resolving every part.** -/
theorem splitEscaped_eq_mapM (delimiter : Char) (cs : List Char) :
    splitEscaped delimiter '\\' cs = (splitRaw delimiter cs).mapM unescape := by
  induction cs using splitRaw.induct delimiter with
  | case1 => rfl
  | case2 => simp [splitRaw, splitEscaped, unescape]
  | case3 x r ih =>
      rw [splitRaw_esc_cons, splitEscaped_esc_cons, ih]
      obtain ⟨p, ps, cut⟩ := List.exists_cons_of_ne_nil (splitRaw_ne_nil delimiter r)
      rw [cut]
      exact (mapM_unescape_cons ('\\' :: x :: ·) (unescape_esc_cons x) p ps).symm
  | case4 r hd ih =>
      rw [splitRaw_delimiter_cons hd, splitEscaped_delimiter_cons hd, ih, List.mapM_cons]
      cases (splitRaw delimiter r).mapM unescape <;> rfl
  | case5 c r he hd ih =>
      rw [splitRaw_plain_cons he hd, splitEscaped_plain_cons he hd, ih]
      obtain ⟨p, ps, cut⟩ := List.exists_cons_of_ne_nil (splitRaw_ne_nil delimiter r)
      rw [cut]
      exact (mapM_unescape_cons (c :: ·) (unescape_plain_cons he) p ps).symm

/-- **One pass and two agree.**  A text splits in one pass exactly when every
part that it is cut into can be resolved, and then into these parts, resolved,
in order.  And the name that an entry is cut at can always be resolved. -/
theorem splitEscaped_twoPasses (delimiter : Char) (cs : List Char) :
    ((∃ parts, splitEscaped delimiter '\\' cs = some parts) ↔
      ∀ raw ∈ splitRaw delimiter cs, ∃ part, unescape raw = some part) ∧
    (∀ parts, splitEscaped delimiter '\\' cs = some parts →
      (splitRaw delimiter cs).map unescape = parts.map some) ∧
    ∀ pair entry key value, splitEntry pair entry = some (key, value) →
      ∃ name, unescape key = some name := by
  have resolved (parts : List (List Char)) : splitEscaped delimiter '\\' cs = some parts ↔
      (splitRaw delimiter cs).map unescape = parts.map some := by
    rw [splitEscaped_eq_mapM, mapM_eq_some_iff]
  refine ⟨⟨?_, ?_⟩, fun parts => (resolved parts).1, ?_⟩
  · rintro ⟨parts, split⟩ raw listed
    have among : unescape raw ∈ parts.map some :=
      (resolved parts).1 split ▸ List.mem_map_of_mem listed
    obtain ⟨part, -, same⟩ := List.mem_map.1 among
    exact ⟨part, same.symm⟩
  · -- what a part resolves to is what its escapes leave
    intro resolves
    refine ⟨(splitRaw delimiter cs).map literal, (resolved _).2 ?_⟩
    rw [List.map_map]
    refine List.map_congr_left fun raw listed => ?_
    obtain ⟨part, here⟩ := resolves raw listed
    exact unescape_eq_some_iff.2 ⟨(unescape_eq_some_iff.1 here).1, rfl⟩
  · intro pair entry key value cut
    exact ⟨literal key, (splitEntry_eq_some_iff.1 cut).unescape_front⟩

/-- Two passes over a text with a run of two backslashes in front of a
delimiter that counts, and one in front of a delimiter that does not; and the
name of an entry that holds an escaped delimiter. -/
theorem splitEscaped_twoPasses_escapes :
    (splitRaw 'é' "x\\\\é\\éyé".toList).map unescape =
        ["x\\".toList, "éy".toList, []].map some ∧
      ∃ name, unescape "a\\=b".toList = some name := by
  have agree := splitEscaped_twoPasses 'é' "x\\\\é\\éyé".toList
  exact ⟨agree.2.1 ["x\\".toList, "éy".toList, []] (by decide +kernel),
    agree.2.2 '=' "a\\=b=c\\".toList "a\\=b".toList "c\\".toList (by decide +kernel)⟩

end Recordwise.Record
