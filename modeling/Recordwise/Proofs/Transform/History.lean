/-
  Recordwise.Proofs.Transform.History
  ───────────────────────────────────
  **A transform has no memory.**

  A transform that is created keeps no pattern yet; every call it serves, be
  it with bytes or with a record already decoded, may add some, whether the
  call succeeds or fails.  The records choose which patterns are asked for,
  and no more than a fixed number is kept, but what is kept never shows: a
  call gives what it would give first.  Main statements:

      isSound_serve         — one call leaves a sound cache
      isSound_cacheAfter    — so do any number of calls
      result_run_cacheAfter — what a run gives behind them
-/
import Recordwise.Proofs.Transform.Result

namespace Recordwise

open DatePattern (Cache)

/-- A call that a transform serves. -/
inductive Request where
  /-- Transform the bytes of a record. -/
  | transform (bytes : List UInt8) (parameters : Parameters)
  /-- Filter a decoded record and bind its outputs. -/
  | evaluate (record : Binding) (parameters : Parameters)

namespace Transform

variable (t : Transform)

/-- The patterns kept when a call is served. -/
def serve (cache : Cache) : Request → Cache
  | .transform bytes parameters => (t.run bytes parameters cache).cache
  | .evaluate record parameters => (t.evaluate record parameters cache).cache

/-- The patterns kept after calls, by a transform that was just created. -/
def cacheAfter (calls : List Request) : Cache := calls.foldl t.serve .empty

/-- **One call leaves a sound cache.** -/
theorem isSound_serve {cache : Cache} (sound : cache.IsSound) (call : Request) :
    (t.serve cache call).IsSound := by
  cases call with
  | transform bytes parameters => exact (t.isSettled_run bytes parameters cache sound).2
  | evaluate record parameters => exact (t.isSettled_evaluate record parameters cache sound).2

/-- **So do any number of calls.** -/
theorem isSound_cacheAfter (calls : List Request) : (t.cacheAfter calls).IsSound := by
  have from_sound : ∀ cache : Cache, cache.IsSound → (calls.foldl t.serve cache).IsSound := by
    induction calls with
    | nil => exact fun cache sound => sound
    | cons call calls ih => exact fun cache sound => ih _ (t.isSound_serve sound call)
  exact from_sound .empty Cache.isSound_empty

/-- What a run gives behind calls is the outcome for its record. -/
theorem result_run_of_calls (calls : List Request) (bytes : List UInt8) (parameters : Parameters) :
    (t.run bytes parameters (t.cacheAfter calls)).result = t.outcome bytes parameters :=
  (t.isSettled_run bytes parameters _ (t.isSound_cacheAfter calls)).1

/-- **What a run gives does not depend on the calls before it**: it is the same
behind any two sequences of calls, and the same as first of all. -/
theorem result_run_cacheAfter (earlier others : List Request) (bytes : List UInt8)
    (parameters : Parameters) :
    (t.run bytes parameters (t.cacheAfter earlier)).result =
        (t.run bytes parameters (t.cacheAfter others)).result ∧
      (t.run bytes parameters (t.cacheAfter earlier)).result =
        (t.run bytes parameters .empty).result := by
  have fresh : (t.run bytes parameters .empty).result = t.outcome bytes parameters :=
    (t.isSettled_run bytes parameters _ Cache.isSound_empty).1
  rw [t.result_run_of_calls earlier, t.result_run_of_calls others, fresh]
  exact ⟨rfl, rfl⟩

end Transform

end Recordwise
