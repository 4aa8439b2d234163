/-
  Recordwise.Proofs.Record.Splitting
  ──────────────────────────────────
  **What splitting makes of escaped texts, and of their beginnings.**

  Escaped texts between delimiters split into the texts.  Conversely, no
  record says the same as a proper beginning of it: a text that goes on after
  a complete one adds a character to the last part or opens a new part.
  That is what tells a record from the same record without its line end.
  Main statements:

      splitEscaped_intercalate — escaped texts between delimiters split into
                                 the texts
      splitEscaped_append_eq   — a longer text splits differently
      splitRaw_of_append       — a beginning of an unsplit text is unsplit
      splitEntry_of_append     — a beginning of an entry has the same name, or
                                 no delimiter yet
-/
import Recordwise.Record.Keyed

namespace Recordwise.Record

/-! ## §1. Line ends. -/

theorem stripLineEnd_append_crlf (cs : List Char) : stripLineEnd (cs ++ ['\r', '\n']) = cs := by
  unfold stripLineEnd
  rw [List.reverse_append]
  show (stripReversed ('\n' :: '\r' :: cs.reverse)).reverse = cs
  rw [stripReversed, List.reverse_reverse]

/-- A text that does not end in a line feed has no line end. -/
theorem stripLineEnd_of_getLast?_ne {cs : List Char} (h : cs.getLast? ≠ some '\n') :
    stripLineEnd cs = cs := by
  rw [List.getLast?_eq_head?_reverse] at h
  unfold stripLineEnd
  rw [stripReversed.eq_3 _ (fun r e => h (by rw [e]; rfl)) (fun r e => h (by rw [e]; rfl)),
    List.reverse_reverse]

/-- A text that ends in a line feed loses one character or two. -/
theorem stripLineEnd_of_getLast?_eq {cs : List Char} (h : cs.getLast? = some '\n') :
    ∃ x, cs = stripLineEnd cs ++ x ∧ x ≠ [] ∧ x.length ≤ 2 := by
  rw [List.getLast?_eq_head?_reverse] at h
  obtain ⟨r, hr⟩ : ∃ r, cs.reverse = '\n' :: r := List.head?_eq_some_iff.1 h
  have hcs : cs = r.reverse ++ ['\n'] := by
    rw [← List.reverse_reverse cs, hr, List.reverse_cons]
  by_cases hc : ∃ q, r = '\r' :: q
  · obtain ⟨q, rfl⟩ := hc
    refine ⟨['\r', '\n'], ?_, by simp, by simp⟩
    have hq : cs = q.reverse ++ ['\r', '\n'] := by rw [hcs, List.reverse_cons]; simp
    rw [hq, stripLineEnd_append_crlf]
  · refine ⟨['\n'], ?_, by simp, by simp⟩
    have strip : stripLineEnd cs = r.reverse := by
      unfold stripLineEnd
      rw [hr, stripReversed.eq_2 _ (fun q e => hc ⟨q, e⟩)]
    rw [strip]
    exact hcs

/-! ## §2. Splitting that resolves escapes. -/

theorem consHead_ne_nil (c : Char) (ps : List (List Char)) : consHead c ps ≠ [] := by
  cases ps <;> simp [consHead]

theorem consHead_inj {c : Char} {ps qs : List (List Char)} (hp : ps ≠ []) (hq : qs ≠ [])
    (h : consHead c ps = consHead c qs) : ps = qs := by
  cases ps with
  | nil => exact absurd rfl hp
  | cons p ps =>
      cases qs with
      | nil => exact absurd rfl hq
      | cons q qs => simpa [consHead] using h

/-- Every text has at least one part. -/
theorem splitEscaped_ne_nil {delimiter esc : Char} {cs : List Char} {ps : List (List Char)}
    (h : splitEscaped delimiter esc cs = some ps) : ps ≠ [] := by
  cases cs with
  | nil => rw [splitEscaped] at h; cases h; simp
  | cons c cs =>
      -- an escape, a delimiter, or a character that stands for itself
      rw [splitEscaped.eq_def] at h
      simp only at h
      split at h
      · cases cs with
        | nil => cases h
        | cons x r =>
            obtain ⟨qs, -, rfl⟩ := Option.map_eq_some_iff.1 h
            exact consHead_ne_nil x qs
      split at h
      · obtain ⟨qs, -, rfl⟩ := Option.map_eq_some_iff.1 h
        simp
      · obtain ⟨qs, -, rfl⟩ := Option.map_eq_some_iff.1 h
        exact consHead_ne_nil c qs

theorem splitEscaped_esc_cons (delimiter esc x : Char) (r : List Char) :
    splitEscaped delimiter esc (esc :: x :: r) =
      (splitEscaped delimiter esc r).map (consHead x) := by
  rw [splitEscaped, if_pos rfl]

theorem splitEscaped_delimiter_cons {delimiter esc : Char} (hd : delimiter ≠ esc)
    (r : List Char) : splitEscaped delimiter esc (delimiter :: r) =
      (splitEscaped delimiter esc r).map ([] :: ·) := by
  rw [splitEscaped.eq_def]
  simp [hd]

theorem splitEscaped_plain_cons {delimiter esc c : Char} (he : c ≠ esc) (hd : c ≠ delimiter)
    (r : List Char) : splitEscaped delimiter esc (c :: r) =
      (splitEscaped delimiter esc r).map (consHead c) := by
  rw [splitEscaped.eq_def]
  simp [he, hd]

/-- An escaped text in front of a delimiter is the first part. -/
theorem splitEscaped_escape_append {delimiter esc : Char} {specials : List Char}
    (h : delimiter ∈ specials) (hd : delimiter ≠ esc) (t rest : List Char) :
    splitEscaped delimiter esc (escape specials esc t ++ delimiter :: rest) =
      (splitEscaped delimiter esc rest).map (t :: ·) := by
  induction t with
  | nil => exact splitEscaped_delimiter_cons hd rest
  | cons c t ih =>
      have step : ∀ o : Option (List (List Char)),
          (o.map (t :: ·)).map (consHead c) = o.map ((c :: t) :: ·) := by
        intro o
        cases o <;> rfl
      by_cases hc : c = esc ∨ c ∈ specials
      · rw [escape, if_pos hc, List.cons_append, List.cons_append, splitEscaped_esc_cons, ih]
        exact step _
      · have he : c ≠ esc := fun e => hc (.inl e)
        have hn : c ≠ delimiter := fun e => hc (.inr (e ▸ h))
        rw [escape, if_neg hc, List.cons_append, splitEscaped_plain_cons he hn, ih]
        exact step _

/-- **Escaped texts between delimiters split into the texts.** -/
theorem splitEscaped_intercalate {delimiter esc : Char} (hd : delimiter ≠ esc)
    {texts : List (List Char)} (h : texts ≠ []) :
    splitEscaped delimiter esc
      (List.intercalate [delimiter] (texts.map (escape [delimiter] esc))) = some texts := by
  induction texts with
  | nil => exact absurd rfl h
  | cons t ts ih =>
      cases ts with
      | nil =>
          rw [List.map_cons, List.map_nil, List.intercalate_singleton]
          exact splitEscaped_escape (List.mem_singleton_self delimiter) t
      | cons u us =>
          rw [List.map_cons, List.map_cons, List.intercalate_cons_cons, List.append_assoc,
            List.singleton_append,
            splitEscaped_escape_append (List.mem_singleton_self delimiter) hd,
            ← List.map_cons, ih (by simp)]
          rfl

/-- **A longer text splits differently.** -/
theorem splitEscaped_append_eq {delimiter esc : Char} {p x : List Char}
    {ps : List (List Char)} (hp : splitEscaped delimiter esc p = some ps)
    (hx : splitEscaped delimiter esc (p ++ x) = some ps) : x = [] := by
  induction p using splitEscaped.induct delimiter esc generalizing ps with
  | case1 =>
      -- the empty text is one empty part, and no other text is
      rw [splitEscaped] at hp
      cases hp
      cases x with
      | nil => rfl
      | cons c x =>
          exfalso
          rw [List.nil_append, splitEscaped.eq_def] at hx
          simp only at hx
          split at hx
          · cases x with
            | nil => cases hx
            | cons y r =>
                obtain ⟨qs, -, he⟩ := Option.map_eq_some_iff.1 hx
                cases qs <;> simp [consHead] at he
          split at hx
          · obtain ⟨qs, hq, he⟩ := Option.map_eq_some_iff.1 hx
            exact splitEscaped_ne_nil hq (List.cons.inj he).2
          · obtain ⟨qs, -, he⟩ := Option.map_eq_some_iff.1 hx
            cases qs <;> simp [consHead] at he
  | case2 => simp [splitEscaped] at hp
  | case3 y r ih =>
      rw [List.cons_append, List.cons_append] at hx
      rw [splitEscaped_esc_cons] at hp hx
      obtain ⟨qs, hq, rfl⟩ := Option.map_eq_some_iff.1 hp
      obtain ⟨us, hu, he⟩ := Option.map_eq_some_iff.1 hx
      have : us = qs := consHead_inj (splitEscaped_ne_nil hu) (splitEscaped_ne_nil hq) he
      exact ih hq (this ▸ hu)
  | case4 r hd ih =>
      rw [List.cons_append] at hx
      rw [splitEscaped_delimiter_cons hd] at hp hx
      obtain ⟨qs, hq, rfl⟩ := Option.map_eq_some_iff.1 hp
      obtain ⟨us, hu, he⟩ := Option.map_eq_some_iff.1 hx
      exact ih hq ((List.cons.inj he).2 ▸ hu)
  | case5 c r he hd ih =>
      rw [List.cons_append] at hx
      rw [splitEscaped_plain_cons he hd] at hp hx
      obtain ⟨qs, hq, rfl⟩ := Option.map_eq_some_iff.1 hp
      obtain ⟨us, hu, hc⟩ := Option.map_eq_some_iff.1 hx
      have : us = qs := consHead_inj (splitEscaped_ne_nil hu) (splitEscaped_ne_nil hq) hc
      exact ih hq (this ▸ hu)

/-! ## §3. Splitting that keeps escapes. -/

/-- A text that no delimiter splits, whatever follows it. -/
def Unsplit (delimiter : Char) (p : List Char) : Prop :=
  ∀ rest, splitRaw delimiter (p ++ rest) = p.foldr consHead (splitRaw delimiter rest)

theorem foldr_consHead_cons (p q : List Char) (ps : List (List Char)) :
    p.foldr consHead (q :: ps) = (p ++ q) :: ps := by
  induction p with
  | nil => rfl
  | cons c p ih =>
      rw [List.foldr_cons, ih]
      rfl

theorem splitRaw_esc_cons (delimiter x : Char) (r : List Char) :
    splitRaw delimiter ('\\' :: x :: r) = consHead '\\' (consHead x (splitRaw delimiter r)) := by
  rw [splitRaw, if_pos rfl]

theorem splitRaw_delimiter_cons {delimiter : Char} (hd : delimiter ≠ '\\') (r : List Char) :
    splitRaw delimiter (delimiter :: r) = [] :: splitRaw delimiter r := by
  rw [splitRaw.eq_def]
  simp [hd]

theorem splitRaw_plain_cons {delimiter c : Char} (he : c ≠ '\\') (hd : c ≠ delimiter)
    (r : List Char) : splitRaw delimiter (c :: r) = consHead c (splitRaw delimiter r) := by
  rw [splitRaw.eq_def]
  simp [he, hd]

theorem unsplit_nil (delimiter : Char) : Unsplit delimiter [] := fun _ => rfl

theorem unsplit_append {delimiter : Char} {p q : List Char} (hp : Unsplit delimiter p)
    (hq : Unsplit delimiter q) : Unsplit delimiter (p ++ q) := by
  intro rest
  rw [List.append_assoc, hp, hq, List.foldr_append]

theorem unsplit_cons {delimiter c : Char} {p : List Char} (he : c ≠ '\\') (hd : c ≠ delimiter)
    (hp : Unsplit delimiter p) : Unsplit delimiter (c :: p) := by
  intro rest
  rw [List.cons_append, splitRaw_plain_cons he hd, hp, List.foldr_cons]

/-- Escaping protects every delimiter of a text. -/
theorem unsplit_escape {delimiter : Char} {specials : List Char} (h : delimiter ∈ specials)
    (t : List Char) : Unsplit delimiter (escape specials '\\' t) := by
  induction t with
  | nil => exact unsplit_nil delimiter
  | cons c t ih =>
      by_cases hc : c = '\\' ∨ c ∈ specials
      · rw [escape, if_pos hc]
        intro rest
        rw [List.cons_append, List.cons_append, splitRaw_esc_cons, ih rest, List.foldr_cons,
          List.foldr_cons]
      · have he : c ≠ '\\' := fun e => hc (.inl e)
        have hd : c ≠ delimiter := fun e => hc (.inr (e ▸ h))
        rw [escape, if_neg hc]
        exact unsplit_cons he hd ih

theorem splitRaw_of_unsplit {delimiter : Char} {p : List Char} (h : Unsplit delimiter p) :
    splitRaw delimiter p = [p] := by
  have hp : splitRaw delimiter (p ++ []) = p.foldr consHead [[]] := h []
  rw [List.append_nil, foldr_consHead_cons, List.append_nil] at hp
  exact hp

/-- **Unsplit texts before delimiters are the parts in front of the rest.** -/
theorem splitRaw_flatMap_append {delimiter : Char} (hd : delimiter ≠ '\\')
    {es : List (List Char)} (h : ∀ e ∈ es, Unsplit delimiter e) (rest : List Char) :
    splitRaw delimiter (es.flatMap (· ++ [delimiter]) ++ rest) =
      es ++ splitRaw delimiter rest := by
  induction es with
  | nil => rfl
  | cons e es ih =>
      rw [List.flatMap_cons, List.append_assoc, List.append_assoc, h e List.mem_cons_self,
        List.singleton_append, splitRaw_delimiter_cons hd, foldr_consHead_cons, List.append_nil,
        ih fun f hf => h f (List.mem_cons_of_mem e hf)]
      rfl

theorem splitRaw_ne_nil (delimiter : Char) (cs : List Char) : splitRaw delimiter cs ≠ [] := by
  cases cs with
  | nil => simp [splitRaw]
  | cons c cs =>
      rw [splitRaw.eq_def]
      simp only
      split
      · cases cs with
        | nil => simp
        | cons x r => exact consHead_ne_nil c _
      split
      · simp
      · exact consHead_ne_nil c _

theorem consHead_eq_singleton {c : Char} {p : List Char} {ps : List (List Char)} (hp : ps ≠ []) :
    consHead c ps = [c :: p] ↔ ps = [p] := by
  cases ps with
  | nil => exact absurd rfl hp
  | cons q qs => simp [consHead]

/-- **A beginning of an unsplit text is unsplit.** -/
theorem splitRaw_of_append {delimiter : Char} {p x : List Char}
    (h : splitRaw delimiter (p ++ x) = [p ++ x]) : splitRaw delimiter p = [p] := by
  induction p using splitRaw.induct delimiter with
  | case1 => rw [splitRaw]
  | case2 => simp [splitRaw]
  | case3 y r ih =>
      rw [List.cons_append, List.cons_append, splitRaw_esc_cons,
        consHead_eq_singleton (consHead_ne_nil _ _),
        consHead_eq_singleton (splitRaw_ne_nil _ _)] at h
      rw [splitRaw_esc_cons, ih h]
      rfl
  | case4 r hd =>
      -- a delimiter in front would make the first part empty
      rw [List.cons_append, splitRaw_delimiter_cons hd] at h
      cases (List.cons.inj h).1
  | case5 c r he hd ih =>
      rw [List.cons_append, splitRaw_plain_cons he hd,
        consHead_eq_singleton (splitRaw_ne_nil _ _)] at h
      rw [splitRaw_plain_cons he hd, ih h]
      rfl

/-! ## §4. Entries and their beginnings. -/

theorem splitEntry_esc_cons (pair x : Char) (r : List Char) :
    splitEntry pair ('\\' :: x :: r) =
      (splitEntry pair r).map fun p => ('\\' :: x :: p.1, p.2) := by
  rw [splitEntry, if_pos rfl]

theorem splitEntry_pair_cons {pair : Char} (hp : pair ≠ '\\') (r : List Char) :
    splitEntry pair (pair :: r) = some ([], r) := by
  rw [splitEntry.eq_def]
  simp [hp]

theorem splitEntry_plain_cons {pair c : Char} (he : c ≠ '\\') (hp : c ≠ pair) (r : List Char) :
    splitEntry pair (c :: r) = (splitEntry pair r).map fun p => (c :: p.1, p.2) := by
  rw [splitEntry.eq_def]
  simp [he, hp]

/-- **A beginning of an entry has the same name, or no delimiter yet.** -/
theorem splitEntry_of_append {pair : Char} {p x key value : List Char}
    (h : splitEntry pair (p ++ x) = some (key, value)) :
    splitEntry pair p = none ∨ ∃ v, splitEntry pair p = some (key, v) ∧ value = v ++ x := by
  induction p using splitEntry.induct pair generalizing key with
  | case1 => exact .inl rfl
  | case2 => exact .inl (by simp [splitEntry])
  | case3 y r ih =>
      rw [List.cons_append, List.cons_append, splitEntry_esc_cons] at h
      obtain ⟨⟨k, v⟩, hk, he⟩ := Option.map_eq_some_iff.1 h
      obtain ⟨rfl, rfl⟩ := Prod.mk.inj he
      rw [splitEntry_esc_cons]
      rcases ih hk with hn | ⟨w, hw, hv⟩
      · exact .inl (by rw [hn]; rfl)
      · exact .inr ⟨w, by rw [hw]; rfl, hv⟩
  | case4 r hp =>
      rw [List.cons_append, splitEntry_pair_cons hp] at h
      obtain ⟨rfl, rfl⟩ := Prod.mk.inj (Option.some.inj h)
      exact .inr ⟨r, splitEntry_pair_cons hp r, rfl⟩
  | case5 c r he hp ih =>
      rw [List.cons_append, splitEntry_plain_cons he hp] at h
      obtain ⟨⟨k, v⟩, hk, hc⟩ := Option.map_eq_some_iff.1 h
      obtain ⟨rfl, rfl⟩ := Prod.mk.inj hc
      rw [splitEntry_plain_cons he hp]
      rcases ih hk with hn | ⟨w, hw, hv⟩
      · exact .inl (by rw [hn]; rfl)
      · exact .inr ⟨w, by rw [hw]; rfl, hv⟩

theorem unescape_esc_cons (x : Char) (r : List Char) :
    unescape ('\\' :: x :: r) = (unescape r).map (x :: ·) := rfl

theorem unescape_plain_cons {c : Char} (h : c ≠ '\\') (r : List Char) :
    unescape (c :: r) = (unescape r).map (c :: ·) :=
  unescape.eq_4 _ _ (fun e _ => h e) (fun _ _ e _ => h e)

/-- **A longer text resolves differently.** -/
theorem unescape_append_eq {p x v : List Char} (hp : unescape p = some v)
    (hx : unescape (p ++ x) = some v) : x = [] := by
  induction p using unescape.induct generalizing v with
  | case1 =>
      -- only the empty text resolves to the empty text
      cases hp
      cases x with
      | nil => rfl
      | cons c x =>
          exfalso
          rw [List.nil_append] at hx
          by_cases hc : c = '\\'
          · subst hc
            cases x with
            | nil => cases hx
            | cons y r =>
                rw [unescape_esc_cons] at hx
                obtain ⟨w, -, hw⟩ := Option.map_eq_some_iff.1 hx
                cases hw
          · rw [unescape_plain_cons hc] at hx
            obtain ⟨w, -, hw⟩ := Option.map_eq_some_iff.1 hx
            cases hw
  | case2 => cases hp
  | case3 y r ih =>
      rw [List.cons_append, List.cons_append] at hx
      rw [unescape_esc_cons] at hp hx
      obtain ⟨w, hw, rfl⟩ := Option.map_eq_some_iff.1 hp
      obtain ⟨u, hu, he⟩ := Option.map_eq_some_iff.1 hx
      exact ih hw ((List.cons.inj he).2 ▸ hu)
  | case4 c r hs hc ih =>
      have hn : c ≠ '\\' := by
        intro e
        cases r with
        | nil => exact hs e rfl
        | cons y r => exact hc y r e rfl
      rw [List.cons_append] at hx
      rw [unescape_plain_cons hn] at hp hx
      obtain ⟨w, hw, rfl⟩ := Option.map_eq_some_iff.1 hp
      obtain ⟨u, hu, he⟩ := Option.map_eq_some_iff.1 hx
      exact ih hw ((List.cons.inj he).2 ▸ hu)

end Recordwise.Record
