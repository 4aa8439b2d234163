/-
  Recordwise.Proofs.Evaluation.Lookups
  ────────────────────────────────────
  **Evaluation reads the columns and parameters that occur, and nothing else.**

  Two scopes agree on an expression when they have the same settings and give
  every column and every parameter in it the same value.  Such scopes evaluate
  it alike, failures included; so how a record came to bind its names, and in
  which order, does not show.  The columns that occur are those that the
  syntax collects, so what is collected is all that evaluation reads.  Main
  statements:

      mem_columns_iff          — the columns collected are those that occur
      evaluate_congr           — scopes that agree evaluate expressions alike
      holds_congr              — and find conditions alike
      evaluation_reads_columns — records that answer alike for the columns
                                 collected evaluate alike
-/
import Recordwise.Proofs.Evaluation.CacheIndependence
import Recordwise.Proofs.Query.Resolution

namespace Recordwise

/-! ## §1. The columns that are collected. -/

namespace Query

/-- **The columns of an expression are those that occur in it.** -/
theorem Expr.mem_columns_iff {e : Expr} {name : String} :
    name ∈ e.columns ↔ Occurs (.column name) e := by
  induction e using Expr.induction_args with
  | literal v =>
      refine ⟨fun listed => absurd listed List.not_mem_nil, fun inside => ?_⟩
      cases inside
  | column other =>
      refine ⟨fun listed => List.mem_singleton.1 listed ▸ .here _, fun inside => ?_⟩
      cases inside
      exact List.mem_singleton_self _
  | parameter other =>
      refine ⟨fun listed => absurd listed List.not_mem_nil, fun inside => ?_⟩
      cases inside
  | call function args ih =>
      show name ∈ columnsOf args ↔ _
      rw [columnsOf_eq_flatMap, List.mem_flatMap]
      constructor
      · rintro ⟨a, listed, inside⟩
        exact .arg listed ((ih a listed).1 inside)
      · intro inside
        cases inside with
        | arg listed inside => exact ⟨_, listed, (ih _ listed).2 inside⟩

/-- What a condition tests has no column that the condition does not have. -/
theorem Condition.mem_columns_of_tests {c : Condition} {e : Expr} (tested : c.Tests e)
    {name : String} (listed : name ∈ e.columns) : name ∈ c.columns := by
  rw [columns_eq_flatMap_expressions]
  exact List.mem_flatMap.2 ⟨e, mem_expressions_iff.2 tested, listed⟩

end Query

open Query

/-! ## §2. Scopes that agree. -/

namespace Scope

/-- Two scopes agree on an expression: they have the same settings, and the
columns and parameters that occur in it have the same values. -/
structure AgreeOn (s u : Scope) (e : Expr) : Prop where
  /-- The settings are the same. -/
  context : s.context = u.context
  /-- The columns have the same values. -/
  column : ∀ name, Expr.Occurs (.column name) e → s.column name = u.column name
  /-- The parameters have the same values. -/
  parameter : ∀ name, Expr.Occurs (.parameter name) e → s.parameter name = u.parameter name

variable {s u : Scope}

/-- Scopes that agree on a call agree on its arguments. -/
theorem AgreeOn.arg {function : String} {args : List Expr}
    (agree : s.AgreeOn u (.call function args)) {a : Expr} (listed : a ∈ args) : s.AgreeOn u a where
  context := agree.context
  column name inside := agree.column name (.arg listed inside)
  parameter name inside := agree.parameter name (.arg listed inside)

theorem evaluateAll_congr {es : List Expr} (h : ∀ e ∈ es, s.evaluate e = u.evaluate e) :
    s.evaluateAll es = u.evaluateAll es := by
  induction es with
  | nil => rw [evaluateAll, evaluateAll]
  | cons e es ih =>
      rw [evaluateAll, evaluateAll, h e List.mem_cons_self,
        ih fun d listed => h d (List.mem_cons_of_mem e listed)]

/-- **Scopes that agree on an expression evaluate it alike.** -/
theorem evaluate_congr {e : Expr} (agree : s.AgreeOn u e) : s.evaluate e = u.evaluate e := by
  induction e using Expr.induction_args with
  | literal v => rw [evaluate, evaluate]
  | column name => rw [evaluate, evaluate, agree.column name (.here _)]
  | parameter name => rw [evaluate, evaluate, agree.parameter name (.here _)]
  | call function args ih =>
      have values : s.evaluateAll args = u.evaluateAll args :=
        evaluateAll_congr fun a listed => ih a listed (agree.arg listed)
      rw [evaluate, evaluate, values, agree.context]

/-- **Scopes that agree on what a condition tests find it alike.** -/
theorem holds_congr {c : Condition} (agree : ∀ e, c.Tests e → s.AgreeOn u e) :
    s.holds c = u.holds c := by
  -- what a part of a junction tests, the junction tests
  induction c with
  | compare l op r =>
      rw [holds, holds, evaluate_congr (agree l (.left l op r)),
        evaluate_congr (agree r (.right l op r))]
  | isNull e negated => rw [holds, holds, evaluate_congr (agree e (.isNull e negated))]
  | and c d hc hd =>
      rw [holds, holds, hc fun e inside => agree e (.andLeft d inside),
        hd fun e inside => agree e (.andRight c inside)]
  | or c d hc hd =>
      rw [holds, holds, hc fun e inside => agree e (.orLeft d inside),
        hd fun e inside => agree e (.orRight c inside)]
  | not c hc => rw [holds, holds, hc fun e inside => agree e (.not inside)]

/-- Scopes whose records answer alike agree on every expression. -/
theorem agreeOn_of_get? {context : Context} {b c : Binding} {parameters : Parameters}
    (same : ∀ name, b.get? name = c.get? name) (e : Expr) :
    AgreeOn ⟨context, b, parameters⟩ ⟨context, c, parameters⟩ e where
  context := rfl
  column name _ := congrArg (fun v? : Option Value => v?.getD .null) (same name)
  parameter _ _ := rfl

/-! ## §3. Records that answer alike. -/

/-- Scopes agree on an expression when their records answer alike for the
columns collected from it. -/
theorem agreeOn_of_columns {context : Context} {b c : Binding} {parameters others : Parameters}
    {e : Expr} (columns : ∀ name ∈ e.columns, b.get? name = c.get? name)
    (parameter : ∀ name, Expr.Occurs (.parameter name) e →
      parameters.lookup name = others.lookup name) :
    AgreeOn ⟨context, b, parameters⟩ ⟨context, c, others⟩ e where
  context := rfl
  column name inside :=
    congrArg (fun v? : Option Value => v?.getD .null) (columns name (Expr.mem_columns_iff.2 inside))
  parameter name inside :=
    congrArg (fun v? : Option Value => v?.getD .null) (parameter name inside)

/-- **Evaluation reads the columns that are collected and the parameters that
occur, and nothing else.**  Two records that answer alike for the columns of an
expression, with parameters that are alike where they occur in it, give it one
value or one failure, whatever patterns the two evaluations find kept; so they
do a condition.  And the columns of a condition are those of its expressions,
which are all that it tests. -/
theorem evaluation_reads_columns (context : Context) (b c : Binding)
    (parameters others : Parameters) {cache next : DatePattern.Cache} (sound : cache.IsSound)
    (sound' : next.IsSound) :
    (∀ e : Expr, (∀ name ∈ e.columns, b.get? name = c.get? name) →
      (∀ name, Expr.Occurs (.parameter name) e →
        parameters.lookup name = others.lookup name) →
      ((evaluate ⟨context, b, parameters⟩ e).runWith cache).1 =
        ((evaluate ⟨context, c, others⟩ e).runWith next).1) ∧
    (∀ d : Condition, (∀ name ∈ d.columns, b.get? name = c.get? name) →
      (∀ e, d.Tests e → ∀ name, Expr.Occurs (.parameter name) e →
        parameters.lookup name = others.lookup name) →
      ((holds ⟨context, b, parameters⟩ d).runWith cache).1 =
        ((holds ⟨context, c, others⟩ d).runWith next).1) ∧
    ∀ d : Condition, d.columns = d.expressions.flatMap Expr.columns ∧
      ∀ e, e ∈ d.expressions ↔ d.Tests e := by
  refine ⟨fun e columns parameter => ?_, fun d columns parameter => ?_, fun d =>
    ⟨d.columns_eq_flatMap_expressions, fun e => Condition.mem_expressions_iff⟩⟩
  · rw [evaluate_congr (agreeOn_of_columns columns parameter)]
    exact ((steady_evaluate _ e).fst_eq sound).trans ((steady_evaluate _ e).fst_eq sound').symm
  · have agree (e : Expr) (tested : d.Tests e) :
        AgreeOn ⟨context, b, parameters⟩ ⟨context, c, others⟩ e :=
      agreeOn_of_columns
        (fun name listed => columns name (Condition.mem_columns_of_tests tested listed))
        (parameter e tested)
    rw [holds_congr agree]
    exact ((steady_holds _ d).fst_eq sound).trans ((steady_holds _ d).fst_eq sound').symm

/-- Two records that differ in what is not read, and two parameters likewise. -/
theorem evaluation_reads_columns_concat :
    ((evaluate ⟨⟨Zone.utc, []⟩, .ofList [("a", .text "1"), ("z", .null)],
        [("k", .integer 7), ("q", .null)]⟩
      (.call "concat" [.column "a", .parameter "k"])).runWith .empty).1 =
    ((evaluate ⟨⟨Zone.utc, []⟩, .ofList [("z", .boolean true), ("a", .text "1")],
        [("k", .integer 7)]⟩
      (.call "concat" [.column "a", .parameter "k"])).runWith
        (DatePattern.Cache.empty.get "yyyy").2).1 := by
  have reads := evaluation_reads_columns ⟨Zone.utc, []⟩
    (.ofList [("a", .text "1"), ("z", .null)]) (.ofList [("z", .boolean true), ("a", .text "1")])
    [("k", .integer 7), ("q", .null)] [("k", .integer 7)] DatePattern.Cache.isSound_empty
    (DatePattern.Cache.isSound_get DatePattern.Cache.isSound_empty "yyyy")
  refine reads.1 _ ?_ ?_
  · intro name listed
    obtain rfl : name = "a" := List.mem_singleton.1 listed
    rfl
  · intro name inside
    -- the only parameter is the second argument
    obtain rfl : name = "k" := by
      cases inside with
      | arg listed inside =>
          rcases List.mem_pair.1 listed with rfl | rfl <;> cases inside
          rfl
    rfl

end Scope

end Recordwise
