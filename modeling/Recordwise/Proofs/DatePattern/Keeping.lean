/-
  Recordwise.Proofs.DatePattern.Keeping
  ─────────────────────────────────────
  **What the cache keeps after any run of requests.**

  A request finds its text kept, or is refused, or is compiled and kept, or is
  compiled when there is no more room.  Only the third puts an entry behind the
  others, and none changes one.  So after a run the texts kept are the first
  ones that compiled, as many as there is room for.  Main statements:

      get_cases     — the four ways in which a request goes
      sources_get   — the texts kept after one request
      prefix_after  — what is kept stays
      sources_after — the texts kept after a run of requests
      get_after     — every request of a run, what it answers and what it leaves
-/
import Recordwise.DatePattern.Cache
import Recordwise.Proofs.Listing.Distinct
import Recordwise.Proofs.Listing.Lookup

namespace Recordwise.DatePattern.Cache

/-! ## §1. One request. -/

/-- The texts that are kept, in order of arrival. -/
def sources (c : Cache) : List String := c.patterns.map (·.1)

theorem length_sources (c : Cache) : c.sources.length = c.size := List.length_map _

theorem get?_eq_none_iff {c : Cache} {source : String} :
    c.get? source = none ↔ source ∉ c.sources :=
  Listing.lookup_eq_none_iff_notMem

section Request

variable (c : Cache) (source : String)

/-- **The four ways in which a request goes.** -/
theorem get_cases :
    (∃ p, c.get? source = some p ∧ c.get source = (.ok p, c)) ∨
    (c.get? source = none ∧ ∃ e, compile source = .error e ∧ c.get source = (.error e, c)) ∨
    (c.get? source = none ∧ ∃ p, compile source = .ok p ∧ c.size < capacity ∧
      c.get source = (.ok p, ⟨c.patterns ++ [(source, p)]⟩)) ∨
    (c.get? source = none ∧ ∃ p, compile source = .ok p ∧ capacity ≤ c.size ∧
      c.get source = (.ok p, c)) := by
  unfold get
  cases kept : c.get? source with
  | some p => exact .inl ⟨p, rfl, rfl⟩
  | none =>
    cases compiled : compile source with
    | error e => exact .inr (.inl ⟨rfl, e, rfl, rfl⟩)
    | ok p =>
      by_cases room : c.size < capacity
      · exact .inr (.inr (.inl ⟨rfl, p, rfl, room, by simp only [if_pos room]⟩))
      · exact .inr (.inr (.inr ⟨rfl, p, rfl, Nat.le_of_not_lt room, by simp only [if_neg room]⟩))

/-- What is kept stays at its place. -/
theorem prefix_get : c.patterns <+: (c.get source).2.patterns := by
  rcases get_cases c source with ⟨p, -, went⟩ | ⟨-, e, -, went⟩ | ⟨-, p, -, -, went⟩ |
    ⟨-, p, -, -, went⟩
  · rw [went]
  · rw [went]
  · rw [went]
    exact List.prefix_append _ _
  · rw [went]

/-- A request that is refused leaves the cache as it is. -/
theorem snd_get_of_error {e : CompileFault} (refused : (c.get source).1 = .error e) :
    (c.get source).2 = c := by
  rcases get_cases c source with ⟨p, -, went⟩ | ⟨-, e, -, went⟩ | ⟨-, p, -, -, went⟩ |
    ⟨-, p, -, -, went⟩
  · rw [went]
  · rw [went]
  · rw [went] at refused
    cases refused
  · rw [went]

/-- Whether a text is a pattern. -/
def compiles : Bool := (compile source).isOk

/-- **The texts kept after one request**: a new one that compiles comes last, if
there is room. -/
theorem sources_get : (c.get source).2.sources =
    if compiles source ∧ source ∉ c.sources ∧ c.size < capacity then c.sources ++ [source]
    else c.sources := by
  unfold compiles
  rcases get_cases c source with ⟨p, kept, went⟩ | ⟨-, e, refused, went⟩ |
    ⟨absent, p, compiled, room, went⟩ | ⟨-, p, -, full, went⟩
  · have among : source ∈ c.sources := by
      by_contra absent
      rw [get?_eq_none_iff.2 absent] at kept
      cases kept
    rw [went, if_neg (fun new => new.2.1 among)]
  · rw [went, refused, if_neg (by rintro ⟨⟨⟩, -⟩)]
  · rw [went, compiled, if_pos ⟨rfl, get?_eq_none_iff.1 absent, room⟩]
    unfold sources
    rw [List.map_append]
    rfl
  · rw [went, if_neg (fun new => Nat.not_lt.2 full new.2.2)]

end Request

/-! ## §2. A run of requests. -/

/-- The cache after a run of requests. -/
def after (c : Cache) (requests : List String) : Cache :=
  requests.foldl (fun c source => (c.get source).2) c

theorem after_append (c : Cache) (requests later : List String) :
    c.after (requests ++ later) = (c.after requests).after later := by
  unfold after
  rw [List.foldl_append]

theorem isSound_after {c : Cache} (h : c.IsSound) (requests : List String) :
    (c.after requests).IsSound := by
  induction requests generalizing c with
  | nil => exact h
  | cons source requests ih => exact ih (isSound_get h source)

/-- **What is kept stays**, at its place. -/
theorem prefix_after (c : Cache) (requests : List String) :
    c.patterns <+: (c.after requests).patterns := by
  induction requests generalizing c with
  | nil => exact List.prefix_refl _
  | cons source requests ih => exact (prefix_get c source).trans (ih (c.get source).2)

theorem get?_of_prefix {c d : Cache} (stays : c.patterns <+: d.patterns) {source : String}
    {p : DatePattern} (kept : c.get? source = some p) : d.get? source = some p := by
  obtain ⟨more, grown⟩ := stays
  unfold get? at kept ⊢
  rw [← grown, List.lookup_append, kept, Option.some_or]

/-- The patterns among some requests, each once, in order of their first
arrival. -/
def arrivals (requests : List String) : List String := (requests.filter compiles).eraseDups

theorem arrivals_append_singleton (requests : List String) (source : String) :
    arrivals (requests ++ [source]) =
      if compiles source ∧ source ∉ arrivals requests then arrivals requests ++ [source]
      else arrivals requests := by
  unfold arrivals
  rw [List.filter_append]
  cases pattern : compiles source with
  | true =>
    rw [List.filter_cons_of_pos pattern, List.filter_nil, Listing.eraseDups_append_singleton]
    by_cases before : source ∈ requests.filter compiles
    · rw [if_pos before, if_neg (fun new => new.2 (List.mem_eraseDups.2 before))]
    · rw [if_neg before, if_pos ⟨rfl, fun among => before (List.mem_eraseDups.1 among)⟩]
  | false =>
    rw [List.filter_cons_of_neg (by simp [pattern]), List.filter_nil, List.append_nil,
      if_neg (by rintro ⟨⟨⟩, -⟩)]

/-- **The texts kept after a run of requests** are the first patterns that
arrived, as many as there is room for. -/
theorem sources_after (requests : List String) :
    (empty.after requests).sources = (arrivals requests).take capacity := by
  induction requests using List.reverseRecOn with
  | nil => rfl
  | append_singleton requests source ih =>
    have size : (empty.after requests).size = min capacity (arrivals requests).length := by
      rw [← length_sources, ih, List.length_take]
    have step : (empty.after (requests ++ [source])).sources
        = ((empty.after requests).get source).2.sources := by
      rw [after_append]
      rfl
    rw [step, sources_get, ih, arrivals_append_singleton]
    by_cases new : compiles source ∧ source ∉ arrivals requests
    · rw [if_pos new]
      have absent : source ∉ (arrivals requests).take capacity :=
        fun among => new.2 (List.mem_of_mem_take among)
      by_cases room : (arrivals requests).length < capacity
      · have longer : (arrivals requests ++ [source]).length ≤ capacity := by
          rw [List.length_append, List.length_singleton]
          omega
        rw [if_pos ⟨new.1, absent, by omega⟩, List.take_of_length_le (Nat.le_of_lt room),
          List.take_of_length_le longer]
      · rw [if_neg (fun kept => by have := kept.2.2; omega),
          List.take_append_of_le_length (Nat.le_of_not_lt room)]
    · -- a pattern that arrived before is kept, or there was no room for it even then
      rw [if_neg new, if_neg]
      rintro ⟨pattern, absent, room⟩
      have short : (arrivals requests).length ≤ capacity := by omega
      rw [List.take_of_length_le short] at absent
      exact new ⟨pattern, absent⟩

/-- How many are kept. -/
theorem size_after (requests : List String) :
    (empty.after requests).size = min capacity (requests.filter compiles).toFinset.card := by
  rw [← length_sources, sources_after, List.length_take, arrivals, Listing.length_eraseDups]

/-- **Every request of a run** is answered as the pattern compiles; after it
every text kept is kept once and with its pattern, nothing that was kept is
lost or changed by it or by later ones, a refusal has left the cache as it was,
and as many are kept as patterns were asked for, up to 256. -/
theorem get_after (requests : List String) (source : String) :
    ((empty.after requests).get source).1 = compile source ∧
    (∀ s ∈ (empty.after (requests ++ [source])).sources, ∃ p,
      (empty.after (requests ++ [source])).get? s = some p ∧ compile s = .ok p) ∧
    (empty.after (requests ++ [source])).sources.Nodup ∧
    (∀ later s p, (empty.after requests).get? s = some p →
      (empty.after (requests ++ later)).get? s = some p) ∧
    (∀ e, ((empty.after requests).get source).1 = .error e →
      empty.after (requests ++ [source]) = empty.after requests) ∧
    (empty.after (requests ++ [source])).size =
      min 256 ((requests ++ [source]).filter compiles).toFinset.card := by
  refine ⟨fst_get (isSound_after isSound_empty requests) source, ?_, ?_, ?_, ?_,
    size_after (requests ++ [source])⟩
  · intro s kept
    obtain ⟨p, found⟩ := Option.ne_none_iff_exists'.1 (mt get?_eq_none_iff.1 (not_not.2 kept))
    exact ⟨p, found, isSound_after isSound_empty _ s p found⟩
  · rw [sources_after]
    exact (Listing.nodup_eraseDups _).sublist (List.take_sublist _ _)
  · intro later s p kept
    rw [after_append]
    exact get?_of_prefix (prefix_after _ later) kept
  · intro e refused
    rw [after_append]
    exact snd_get_of_error _ _ refused

/-- A pattern that is asked for again, one that does not compile, and a new one. -/
theorem get_after_again :
    (empty.after ["yyyyMMdd", "QQ", "yyyyMMdd"]).get? "yyyyMMdd"
        = some ⟨"yyyyMMdd", [.year, .month, .day]⟩ ∧
      (empty.after (["yyyyMMdd", "QQ", "yyyyMMdd"] ++ ["HH", "QQ"])).get? "yyyyMMdd"
        = some ⟨"yyyyMMdd", [.year, .month, .day]⟩ ∧
      ((empty.after ["yyyyMMdd", "QQ", "yyyyMMdd"]).get "'").1 = .error .unterminatedQuote ∧
      empty.after (["yyyyMMdd", "QQ", "yyyyMMdd"] ++ ["'"])
        = empty.after ["yyyyMMdd", "QQ", "yyyyMMdd"] ∧
      "HH" ∈ (empty.after (["yyyyMMdd", "QQ", "yyyyMMdd"] ++ ["HH"])).sources ∧
      (∃ p, (empty.after (["yyyyMMdd", "QQ", "yyyyMMdd"] ++ ["HH"])).get? "HH" = some p ∧
        compile "HH" = .ok p) ∧
      (empty.after (["yyyyMMdd", "QQ", "yyyyMMdd"] ++ ["HH"])).size = 2 := by
  have kept : (empty.after ["yyyyMMdd", "QQ", "yyyyMMdd"]).get? "yyyyMMdd"
      = some ⟨"yyyyMMdd", [.year, .month, .day]⟩ := by decide
  obtain ⟨-, -, -, stays, refused, -⟩ := get_after ["yyyyMMdd", "QQ", "yyyyMMdd"] "'"
  obtain ⟨-, sound, -, -, -, size⟩ := get_after ["yyyyMMdd", "QQ", "yyyyMMdd"] "HH"
  have open_quote : ((empty.after ["yyyyMMdd", "QQ", "yyyyMMdd"]).get "'").1
      = .error .unterminatedQuote := by decide
  have among : "HH" ∈ (empty.after (["yyyyMMdd", "QQ", "yyyyMMdd"] ++ ["HH"])).sources := by decide
  refine ⟨kept, stays ["HH", "QQ"] _ _ kept, open_quote, refused _ open_quote, among,
    sound _ among, ?_⟩
  rw [size]
  decide

end Recordwise.DatePattern.Cache
