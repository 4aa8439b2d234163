/-
  Recordwise.Proofs.Query.Resolution
  ──────────────────────────────────
  **Which statements resolve, and to what.**

  Resolving walks the select list, then the condition, and stops at the first
  fault.  `IsResolvable` says which statements have none, without an order:
  every column is a source field, every call has an overload, every entry has
  an output name, and no name is given twice.  Main statements:

      check_eq_ok_iff        — an expression is accepted when all that occurs
                               in it is available
      resolveItems_eq_ok_iff — entries resolve one by one, with fresh names
      resolve_eq_ok_iff      — what a statement resolves to
      exists_resolve_iff     — the statements that resolve
      resolve_characterized  — these, their plans, and how the others fail
-/
import Mathlib.Data.List.Nodup
import Recordwise.Proofs.Failure.FailsWith
import Recordwise.Proofs.Query.Layout
import Recordwise.Query.Plan

namespace Recordwise

/-! ## §1. Overloads. -/

/-- A call is accepted exactly when some overload of its name accepts its
number of arguments. -/
theorem Builtin.exists_check_iff {name : String} {count : Nat} :
    (∃ b, check name count = .ok b) ↔
      ∃ b ∈ all, b.name = name ∧ b.arity.accepts count = true := by
  constructor
  · rintro ⟨b, found⟩
    have looked := check_eq_ok.1 found
    have listed : b ∈ overloads name := List.mem_of_find?_eq_some looked
    exact ⟨b, List.mem_of_mem_filter listed, lookup?_some looked⟩
  · rintro ⟨b, listed, rfl, accepts⟩
    have some_accepts : (lookup? b.name count).isSome = true := by
      unfold lookup?
      rw [List.find?_isSome]
      exact ⟨b, List.mem_filter.2 ⟨listed, beq_self_eq_true _⟩, accepts⟩
    obtain ⟨c, looked⟩ := Option.isSome_iff_exists.1 some_accepts
    exact ⟨c, check_eq_ok.2 looked⟩

namespace Query

/-! ## §2. What occurs in a statement. -/

/-- An expression occurs in itself and in the calls that it is an argument
of. -/
inductive Expr.Occurs : Expr → Expr → Prop where
  /-- In itself. -/
  | here (e : Expr) : Occurs e e
  /-- In an argument. -/
  | arg {d a : Expr} {function : String} {args : List Expr} (listed : a ∈ args)
    (inside : Occurs d a) : Occurs d (.call function args)

/-- The operands of the tests that a condition is made of. -/
inductive Condition.Tests : Condition → Expr → Prop where
  /-- The left side of a comparison. -/
  | left (l : Expr) (op : Comparison) (r : Expr) : Tests (.compare l op r) l
  /-- The right side of a comparison. -/
  | right (l : Expr) (op : Comparison) (r : Expr) : Tests (.compare l op r) r
  /-- What is tested for null. -/
  | isNull (e : Expr) (negated : Bool) : Tests (.isNull e negated) e
  /-- In the first of two conditions that both hold. -/
  | andLeft {c : Condition} {e : Expr} (d : Condition) (inside : Tests c e) : Tests (.and c d) e
  /-- In the second of them. -/
  | andRight {d : Condition} {e : Expr} (c : Condition) (inside : Tests d e) : Tests (.and c d) e
  /-- In the first of two conditions one of which holds. -/
  | orLeft {c : Condition} {e : Expr} (d : Condition) (inside : Tests c e) : Tests (.or c d) e
  /-- In the second of them. -/
  | orRight {d : Condition} {e : Expr} (c : Condition) (inside : Tests d e) : Tests (.or c d) e
  /-- In a condition that does not hold. -/
  | not {c : Condition} {e : Expr} (inside : Tests c e) : Tests (.not c) e

/-- An expression occurs in a statement when it occurs in an entry or in an
operand of the condition. -/
def Statement.Mentions (s : Statement) (d : Expr) : Prop :=
  (∃ item ∈ s.items, d.Occurs item.expr) ∨
    ∃ c e, s.condition? = some c ∧ c.Tests e ∧ d.Occurs e

/-- **The expressions of a condition are the operands of its tests.** -/
theorem Condition.mem_expressions_iff {c : Condition} {e : Expr} :
    e ∈ c.expressions ↔ c.Tests e := by
  constructor
  · intro listed
    induction c with
    | compare l op r =>
        rcases List.mem_pair.1 listed with rfl | rfl
        · exact .left _ op r
        · exact .right l op _
    | isNull d negated =>
        obtain rfl := List.mem_singleton.1 listed
        exact .isNull _ negated
    | and c d hc hd =>
        rcases List.mem_append.1 listed with first | second
        · exact .andLeft d (hc first)
        · exact .andRight c (hd second)
    | or c d hc hd =>
        rcases List.mem_append.1 listed with first | second
        · exact .orLeft d (hc first)
        · exact .orRight c (hd second)
    | not c hc => exact .not (hc listed)
  · intro tested
    induction tested with
    | left => exact List.mem_cons_self
    | right => exact List.mem_cons_of_mem _ List.mem_cons_self
    | isNull => exact List.mem_cons_self
    | andLeft _ _ ih => exact List.mem_append_left _ ih
    | andRight _ _ ih => exact List.mem_append_right _ ih
    | orLeft _ _ ih => exact List.mem_append_left _ ih
    | orRight _ _ ih => exact List.mem_append_right _ ih
    | not _ ih => exact ih

/-! ## §3. Expressions. -/

/-- Whether what an expression itself names is there: the field of a column,
an overload of a call. -/
def Expr.IsAvailable (source : List String) : Expr → Prop
  | .column name => name ∈ source
  | .call function args =>
    ∃ b ∈ Builtin.all, b.name = function ∧ b.arity.accepts args.length = true
  | _ => True

section Expressions

variable {source : List String}

theorem checkAll_eq_ok_iff {es : List Expr} :
    checkAll source es = .ok () ↔ ∀ e ∈ es, check source e = .ok () := by
  induction es with
  | nil => simp [checkAll]
  | cons e es ih =>
      rw [checkAll, List.forall_mem_cons, ← ih]
      cases check source e with
      | ok => simp
      | error f => simp

/-- A call is accepted when it has an overload and its arguments are
accepted. -/
theorem check_call_eq_ok_iff {function : String} {args : List Expr} :
    check source (.call function args) = .ok () ↔
      (∃ b, Builtin.check function args.length = .ok b) ∧
        ∀ a ∈ args, check source a = .ok () := by
  rw [check, ← checkAll_eq_ok_iff]
  cases Builtin.check function args.length with
  | ok b => simp
  | error f => simp

/-- **An expression is accepted exactly when all that occurs in it is
available.** -/
theorem check_eq_ok_iff {e : Expr} :
    check source e = .ok () ↔ ∀ d : Expr, d.Occurs e → d.IsAvailable source := by
  induction e using Expr.induction_args with
  | literal v =>
      refine ⟨fun _ d occurs => ?_, fun _ => rfl⟩
      cases occurs
      trivial
  | parameter name =>
      refine ⟨fun _ d occurs => ?_, fun _ => rfl⟩
      cases occurs
      trivial
  | column name =>
      have known : check source (.column name) = .ok () ↔ name ∈ source := by
        rw [check]
        by_cases h : name ∈ source <;> simp [h]
      rw [known]
      refine ⟨fun h d occurs => ?_, fun h => h _ (.here _)⟩
      cases occurs
      exact h
  | call function args ih =>
      rw [check_call_eq_ok_iff, Builtin.exists_check_iff]
      constructor
      · rintro ⟨overload, checked⟩ d occurs
        cases occurs with
        -- the call itself, or something inside an argument
        | here => exact overload
        | arg listed inside => exact (ih _ listed).1 (checked _ listed) d inside
      · intro h
        refine ⟨h _ (.here _), fun a listed => (ih a listed).2 fun d inside => ?_⟩
        exact h d (.arg listed inside)

end Expressions

/-! ## §4. Entries. -/

/-- The name of an entry's output: its alias, else the sink field at its
place. -/
def Item.outputName? (sink : List String) (position : Nat) (item : Item) : Option String :=
  item.alias?.or sink[position]?

/-- Whether an entry's alias, if it has one, names a sink field; a sink
without fields takes every alias. -/
def Item.FitsSink (sink : List String) (item : Item) : Prop :=
  ∀ a, item.alias? = some a → sink = [] ∨ a ∈ sink

/-- The output names and the expressions of entries, counted from a place on;
none where there is neither an alias nor a sink field. -/
def namedExprs (sink : List String) (position : Nat) (items : List Item) :
    List (Option String × Expr) :=
  (items.zipIdx position).map fun p => (p.1.outputName? sink p.2, p.1.expr)

/-- The name and the expression of an output. -/
def Output.toPair (o : Output) : Option String × Expr := (some o.name, o.expr)

section Entries

variable {source sink taken : List String} {position : Nat}

theorem getElem?_namedExprs (items : List Item) (j : Nat) :
    (namedExprs sink 0 items)[j]? =
      items[j]?.map fun item => (item.outputName? sink j, item.expr) := by
  unfold namedExprs
  rw [List.getElem?_map, List.getElem?_zipIdx, Option.map_map, Nat.zero_add]
  rfl

theorem outputName_eq_ok_iff {item : Item} {name : String} :
    outputName sink position item = .ok name ↔
      item.outputName? sink position = some name ∧ item.FitsSink sink := by
  unfold outputName Item.outputName? Item.FitsSink
  cases item.alias? with
  | some a =>
      by_cases fits : sink = [] ∨ a ∈ sink <;> simp [fits]
  | none =>
      cases sink[position]? <;> simp

/-- The first entry is checked and named, then the others, with its name
taken. -/
theorem resolveItems_cons_eq_ok_iff {item : Item} {items : List Item} {outputs : List Output} :
    resolveItems source sink position taken (item :: items) = .ok outputs ↔
      ∃ name rest, check source item.expr = .ok () ∧
        outputName sink position item = .ok name ∧ name ∉ taken ∧
        resolveItems source sink (position + 1) (name :: taken) items = .ok rest ∧
        outputs = ⟨name, item.expr⟩ :: rest := by
  rw [resolveItems, bind_eq_ok_iff]
  constructor
  · rintro ⟨_, checked, behind⟩
    obtain ⟨name, named, behind⟩ := bind_eq_ok_iff.1 behind
    by_cases again : name ∈ taken
    · rw [if_pos again] at behind
      cases behind
    · rw [if_neg again] at behind
      obtain ⟨rest, resolved, same⟩ := bind_eq_ok_iff.1 behind
      exact ⟨name, rest, checked, named, again, resolved, (Except.ok.inj same).symm⟩
  · rintro ⟨name, rest, checked, named, fresh, resolved, rfl⟩
    refine ⟨(), checked, bind_eq_ok_iff.2 ⟨name, named, ?_⟩⟩
    rw [if_neg fresh]
    exact bind_eq_ok_iff.2 ⟨rest, resolved, rfl⟩

/-- **Entries resolve one by one**: to outputs with their names and
expressions, where no name is taken and none is given twice. -/
theorem resolveItems_eq_ok_iff {items : List Item} {outputs : List Output} :
    resolveItems source sink position taken items = .ok outputs ↔
      (∀ item ∈ items, check source item.expr = .ok () ∧ item.FitsSink sink) ∧
        outputs.map Output.toPair = namedExprs sink position items ∧
        (outputs.map (·.name)).Nodup ∧ ∀ o ∈ outputs, o.name ∉ taken := by
  induction items generalizing position taken outputs with
  | nil =>
      constructor
      · intro h
        obtain rfl := Except.ok.inj h
        exact ⟨fun item listed => absurd listed List.not_mem_nil, rfl, List.nodup_nil,
          fun o listed => absurd listed List.not_mem_nil⟩
      · rintro ⟨-, pairs, -, -⟩
        rw [List.map_eq_nil_iff.1 pairs]
        rfl
  | cons item items ih =>
      rw [resolveItems_cons_eq_ok_iff, List.forall_mem_cons]
      constructor
      · rintro ⟨name, rest, checked, named, fresh, resolved, rfl⟩
        obtain ⟨each, pairs, distinct, apart⟩ := ih.1 resolved
        obtain ⟨named, fits⟩ := outputName_eq_ok_iff.1 named
        refine ⟨⟨⟨checked, fits⟩, each⟩, ?_, ?_, ?_⟩
        · rw [List.map_cons, pairs, Output.toPair, ← named]
          rfl
        · rw [List.map_cons, List.nodup_cons]
          refine ⟨fun again => ?_, distinct⟩
          obtain ⟨o, listed, same⟩ := List.mem_map.1 again
          exact apart o listed (same ▸ List.mem_cons_self)
        · rw [List.forall_mem_cons]
          exact ⟨fresh, fun o listed inTaken => apart o listed (List.mem_cons_of_mem name inTaken)⟩
      · rintro ⟨⟨⟨checked, fits⟩, each⟩, pairs, distinct, apart⟩
        -- there is an output for the first entry, and the others are for the others
        obtain ⟨o, rest, rfl, first, others⟩ := List.map_eq_cons_iff.1 pairs
        obtain ⟨named, expr⟩ := Prod.mk.inj first
        rw [List.map_cons, List.nodup_cons] at distinct
        rw [List.forall_mem_cons] at apart
        refine ⟨o.name, rest, checked, outputName_eq_ok_iff.2 ⟨named.symm, fits⟩, apart.1,
          ih.2 ⟨each, others, distinct.2, ?_⟩, ?_⟩
        · intro p listed inTaken
          rcases List.mem_cons.1 inTaken with same | inTaken
          · exact distinct.1 (List.mem_map.2 ⟨p, listed, same⟩)
          · exact apart.2 p listed inTaken
        · rw [← expr]

end Entries

/-! ## §5. Statements. -/

section Statements

variable {s : Statement} {source sink : List String}

theorem checkCondition_eq_ok_iff {condition? : Option Condition} :
    checkCondition source condition? = .ok () ↔
      ∀ c, condition? = some c → ∀ e ∈ c.expressions, check source e = .ok () := by
  cases condition? with
  | none => simp [checkCondition]
  | some c => simp [checkCondition, checkAll_eq_ok_iff]

/-- **What a statement resolves to**: the names and the expressions of its
entries, and its condition. -/
theorem resolve_eq_ok_iff {plan : Plan} :
    s.resolve source sink = .ok plan ↔
      (∀ item ∈ s.items, check source item.expr = .ok () ∧ item.FitsSink sink) ∧
        checkCondition source s.condition? = .ok () ∧
        plan.outputs.map Output.toPair = namedExprs sink 0 s.items ∧
        (plan.outputs.map (·.name)).Nodup ∧ plan.condition? = s.condition? := by
  unfold Statement.resolve
  constructor
  · intro h
    obtain ⟨outputs, resolved, behind⟩ := bind_eq_ok_iff.1 h
    obtain ⟨_, checked, same⟩ := bind_eq_ok_iff.1 behind
    obtain rfl := Except.ok.inj same
    obtain ⟨each, pairs, distinct, -⟩ := resolveItems_eq_ok_iff.1 resolved
    exact ⟨each, checked, pairs, distinct, rfl⟩
  · rintro ⟨each, checked, pairs, distinct, same⟩
    have resolved := resolveItems_eq_ok_iff.2
      ⟨each, pairs, distinct, fun o _ => List.not_mem_nil⟩
    refine bind_eq_ok_iff.2 ⟨plan.outputs, resolved, bind_eq_ok_iff.2 ⟨(), checked, ?_⟩⟩
    rw [← same]
    rfl

/-- **A statement without faults**, for the names of source and sink fields. -/
structure Statement.IsResolvable (s : Statement) (source sink : List String) : Prop where
  /-- Every column is a source field. -/
  column : ∀ name, s.Mentions (.column name) → name ∈ source
  /-- Every call has an overload that accepts its number of arguments. -/
  call : ∀ function args, s.Mentions (.call function args) →
    ∃ b ∈ Builtin.all, b.name = function ∧ b.arity.accepts args.length = true
  /-- Every alias names a sink field, unless there are none. -/
  named : ∀ item ∈ s.items, ∀ a, item.alias? = some a → sink = [] ∨ a ∈ sink
  /-- Every entry without an alias has a sink field at its place. -/
  placed : ∀ i item, s.items[i]? = some item → item.alias? = none → i < sink.length
  /-- No output name is given twice. -/
  distinct : ((namedExprs sink 0 s.items).map (·.1)).Nodup

/-- All expressions are accepted when all that the statement mentions is
available. -/
theorem checked_iff_available :
    ((∀ item ∈ s.items, check source item.expr = .ok ()) ∧
        checkCondition source s.condition? = .ok ()) ↔
      ∀ d, s.Mentions d → d.IsAvailable source := by
  simp only [checkCondition_eq_ok_iff, check_eq_ok_iff, Condition.mem_expressions_iff]
  constructor
  · rintro ⟨entries, condition⟩ d (⟨item, listed, occurs⟩ | ⟨c, e, same, tested, occurs⟩)
    · exact entries item listed d occurs
    · exact condition c same e tested d occurs
  · intro h
    refine ⟨fun item listed d occurs => ?_, fun c same e tested d occurs => ?_⟩
    · exact h d (.inl ⟨item, listed, occurs⟩)
    · exact h d (.inr ⟨c, e, same, tested, occurs⟩)

/-- Every entry has an output name when those without an alias have a sink
field at their place. -/
theorem exists_outputs {items : List Item}
    (placed : ∀ i item, items[i]? = some item → item.alias? = none → i < sink.length) :
    ∃ outputs : List Output, outputs.map Output.toPair = namedExprs sink 0 items := by
  refine ⟨items.zipIdx.map fun p => ⟨(p.1.outputName? sink p.2).getD "", p.1.expr⟩, ?_⟩
  unfold namedExprs
  rw [List.map_map]
  refine List.map_congr_left fun p listed => ?_
  have at_place : items[p.2]? = some p.1 := List.mem_zipIdx_iff_getElem?.1 listed
  obtain ⟨name, named⟩ : ∃ name, p.1.outputName? sink p.2 = some name := by
    unfold Item.outputName?
    cases alias? : p.1.alias? with
    | some a => exact ⟨a, rfl⟩
    | none =>
        have inSink := placed p.2 p.1 at_place alias?
        exact ⟨sink[p.2], by rw [Option.none_or, List.getElem?_eq_getElem inSink]⟩
  show (some ((p.1.outputName? sink p.2).getD ""), p.1.expr) = _
  rw [named]
  rfl

/-- A statement without faults resolves, one with a fault does not. -/
theorem exists_resolve_iff :
    (∃ plan, s.resolve source sink = .ok plan) ↔ s.IsResolvable source sink := by
  have names (outputs : List Output) :
      (outputs.map Output.toPair).map (·.1) = (outputs.map (·.name)).map some := by
    rw [List.map_map, List.map_map]
    rfl
  constructor
  · rintro ⟨plan, resolved⟩
    obtain ⟨each, condition, pairs, distinct, -⟩ := resolve_eq_ok_iff.1 resolved
    have available := checked_iff_available.1 ⟨fun item listed => (each item listed).1, condition⟩
    refine ⟨fun name => available _, fun function args => available _,
      fun item listed => (each item listed).2, ?_, ?_⟩
    · intro i item at_place noAlias
      have named : (plan.outputs.map Output.toPair)[i]? =
          some (item.outputName? sink i, item.expr) := by
        rw [pairs, getElem?_namedExprs, at_place, Option.map_some]
      rw [List.getElem?_map] at named
      obtain ⟨o, -, same⟩ := Option.map_eq_some_iff.1 named
      have found := (Prod.mk.inj same).1
      rw [Item.outputName?, noAlias, Option.none_or] at found
      exact (List.getElem?_eq_some_iff.1 found.symm).1
    · rw [← pairs, names]
      exact distinct.map fun _ _ same => Option.some.inj same
  · intro resolvable
    have available : ∀ d, s.Mentions d → d.IsAvailable source := by
      intro d mentioned
      cases d with
      | literal v => trivial
      | parameter name => trivial
      | column name => exact resolvable.column name mentioned
      | call function args => exact resolvable.call function args mentioned
    obtain ⟨checked, condition⟩ := checked_iff_available.2 available
    obtain ⟨outputs, pairs⟩ := exists_outputs resolvable.placed
    have distinct := resolvable.distinct
    rw [← pairs, names] at distinct
    refine ⟨⟨outputs, s.condition?⟩, resolve_eq_ok_iff.2 ⟨?_, condition, pairs, ?_, rfl⟩⟩
    · exact fun item listed => ⟨checked item listed, resolvable.named item listed⟩
    · exact List.Nodup.of_map some distinct

/-- A text is the statement that is read from its tokens. -/
theorem parseStatement_of_tokens {text : String} {ts : List Token}
    (scanned : tokens? text.toList = some ts)
    (read : wholly (statement (stepBound ts) ts) = some s) : parseStatement text = .ok s := by
  unfold parseStatement Statement.ofText?
  rw [scanned, Option.bind_some, read]

/-- The fault of a statement is reported as a parse failure. -/
theorem compile_of_resolve_error {text : String} (parsed : parseStatement text = .ok s)
    {source sink : List Field} {fault : PlanFault}
    (refused : s.resolve (source.map (·.name)) (sink.map (·.name)) = .error fault) :
    compile text source sink = .error (.parse fault.message) := by
  unfold compile
  rw [parsed]
  show (pure s >>= _ : Except Failure (String × Plan)) = _
  rw [pure_bind, refused]
  rfl

/-- **Resolving finds the statements without faults.**  They are the ones that
resolve, to the names and the expressions of their entries, in order, and to
their condition as it is; a text of any other statement is refused by a parse
failure. -/
theorem resolve_characterized (s : Statement) (source sink : List Field) :
    ((∃ plan, s.resolve (source.map (·.name)) (sink.map (·.name)) = .ok plan) ↔
        s.IsResolvable (source.map (·.name)) (sink.map (·.name))) ∧
      (∀ plan, s.resolve (source.map (·.name)) (sink.map (·.name)) = .ok plan →
        plan.outputs.map Output.toPair = namedExprs (sink.map (·.name)) 0 s.items ∧
          plan.condition? = s.condition?) ∧
      (¬ s.IsResolvable (source.map (·.name)) (sink.map (·.name)) →
        ∃ fault, s.resolve (source.map (·.name)) (sink.map (·.name)) = .error fault ∧
          ∀ text, parseStatement text = .ok s →
            compile text source sink = .error (.parse fault.message)) := by
  refine ⟨exists_resolve_iff, fun plan resolved => ?_, fun faulty => ?_⟩
  · obtain ⟨-, -, pairs, -, same⟩ := resolve_eq_ok_iff.1 resolved
    exact ⟨pairs, same⟩
  · cases resolved : s.resolve (source.map (·.name)) (sink.map (·.name)) with
    | ok plan => exact absurd (exists_resolve_iff.1 ⟨plan, resolved⟩) faulty
    | error fault =>
        exact ⟨fault, rfl, fun text parsed => compile_of_resolve_error parsed resolved⟩

/-- An entry without an alias may be named by a sink field that another entry
has for its alias. -/
theorem resolve_characterized_clash :
    (∃ plan, Statement.resolve ⟨[⟨.column "a", some "x"⟩, ⟨.column "b", none⟩], "s", none⟩
        ["a", "b"] ["x", "y"] = .ok plan ∧
      plan.outputs.map Output.toPair = [(some "x", .column "a"), (some "y", .column "b")]) ∧
      ∃ d, compile "select a as x, b from s" [⟨"a", none, false⟩, ⟨"b", none, false⟩]
        [⟨"y", none, false⟩, ⟨"x", none, false⟩] = .error (.parse d) := by
  have parsed : parseStatement "select a as x, b from s" =
      .ok ⟨[⟨.column "a", some "x"⟩, ⟨.column "b", none⟩], "s", none⟩ :=
    parseStatement_of_tokens
      (show tokens? _ = some [.word "select", .word "a", .word "as", .word "x", .comma, .word "b",
        .word "from", .word "s"] by decide +kernel) rfl
  constructor
  · have resolved := (resolve_characterized
      ⟨[⟨.column "a", some "x"⟩, ⟨.column "b", none⟩], "s", none⟩
      [⟨"a", none, false⟩, ⟨"b", none, false⟩] [⟨"x", none, false⟩, ⟨"y", none, false⟩]).2.1
      ⟨[⟨"x", .column "a"⟩, ⟨"y", .column "b"⟩], none⟩ rfl
    exact ⟨_, rfl, resolved.1⟩
  · -- the second entry is named `x` too
    have clash : ¬ Statement.IsResolvable
        ⟨[⟨.column "a", some "x"⟩, ⟨.column "b", none⟩], "s", none⟩ ["a", "b"] ["y", "x"] :=
      fun h => absurd h.distinct (by decide)
    obtain ⟨fault, -, refused⟩ := (resolve_characterized
      ⟨[⟨.column "a", some "x"⟩, ⟨.column "b", none⟩], "s", none⟩
      [⟨"a", none, false⟩, ⟨"b", none, false⟩] [⟨"y", none, false⟩, ⟨"x", none, false⟩]).2.2 clash
    exact ⟨fault.message, refused _ parsed⟩

end Statements

end Query

end Recordwise
