/-
  Recordwise.Proofs.Transform.SelectOrder
  ───────────────────────────────────────
  **Fields do not know of one another.**

  The order of a select list whose entries all have an alias does not show in
  what a transform gives; and a field whose expression fails is lost without
  a trace, as if null stood in its place.  Main statements:

      contribution_of_failure — a failing expression contributes what null
                                does
      outcome_of_isReordering — entries in other places make no difference
      outcome_nullify         — neither does null for an expression that fails
      result_run_of_rewriting — both, for the transforms that are created
-/
import Recordwise.Proofs.Query.Rewriting
import Recordwise.Proofs.Transform.Contributions
import Recordwise.Proofs.Transform.Creation
import Recordwise.Proofs.Transform.History

namespace Recordwise

open Query

/-! ## §1. One expression made null. -/

namespace Scope

variable (s : Scope)

/-- Null contributes nothing. -/
theorem contribution_nullify (o : Output) : s.contribution o.nullify = .ok none := by
  unfold contribution value Output.nullify
  rw [evaluate]
  rfl

/-- **A failing expression contributes what null does.** -/
theorem contribution_of_failure {o : Output} {f : Failure}
    (failed : s.value o.expr = .error (.failed f)) : s.contribution o = .ok none := by
  unfold contribution
  rw [failed]

/-- Where the output at a place fails, making it null changes no
contribution. -/
theorem contributions_nullify {plan : Plan} {i : Nat} {o : Output}
    (here : plan.outputs[i]? = some o) {f : Failure}
    (failed : s.value o.expr = .error (.failed f)) :
    (plan.nullify i).outputs.map s.contribution = plan.outputs.map s.contribution := by
  apply List.ext_getElem?
  intro j
  unfold Plan.nullify
  rw [List.getElem?_map, List.getElem?_map, List.getElem?_modify]
  by_cases same : i = j
  · rw [← same, here]
    show some (s.contribution (if i = i then o.nullify else o)) = some (s.contribution o)
    rw [if_pos rfl, s.contribution_nullify, s.contribution_of_failure failed]
  · simp [same]

end Scope

namespace Transform

/-- A transform with the expression of the output at a place made null. -/
def nullify (t : Transform) (i : Nat) : Transform := { t with plan := t.plan.nullify i }

variable {zones : Zone.Database} {settings : Settings} {source sink : Schema} {s s' : Statement}
  {text : String} {t : Transform} {log : List Log.Entry}

/-! ## §2. The plan of a created transform. -/

/-- The plan of a created transform is what its statement resolves to. -/
theorem resolve_of_create (created : create zones settings source sink = .ok (t, log))
    (parsed : parseStatement settings.statement = .ok s) :
    s.resolve (t.decoder.fields.map (·.name)) (t.encoder.fields.map (·.name)) = .ok t.plan := by
  obtain ⟨-, -, -, r, parsedAs, resolved, -⟩ := create_eq_ok_iff.1 created
  rw [parsed] at parsedAs
  obtain rfl := Except.ok.inj parsedAs
  exact resolved

/-- The output names of a created transform are distinct. -/
theorem nodup_names_of_create (created : create zones settings source sink = .ok (t, log)) :
    (t.plan.outputs.map (·.name)).Nodup := by
  obtain ⟨-, -, -, r, -, resolved, -⟩ := create_eq_ok_iff.1 created
  obtain ⟨-, -, -, distinct, -⟩ := resolve_eq_ok_iff.1 resolved
  exact distinct

/-! ## §3. Entries in other places. -/

/-- With entries in other places another transform is created, which has the
same outputs in other places. -/
theorem exists_create_of_isReordering (created : create zones settings source sink = .ok (t, log))
    (parsed : parseStatement settings.statement = .ok s) (parsed' : parseStatement text = .ok s')
    (reordered : s.IsReordering s') :
    ∃ plan log', create zones { settings with statement := text } source sink =
        .ok ({ t with plan := plan }, log') ∧
      t.plan.outputs.Perm plan.outputs ∧ plan.condition? = t.plan.condition? := by
  have resolved := resolve_of_create created parsed
  obtain ⟨plan, resolved', perm, condition⟩ := exists_resolve_of_isReordering reordered resolved
  obtain ⟨log', created'⟩ := exists_create_of_resolve created parsed' resolved'
  exact ⟨plan, log', created', perm, condition⟩

/-- **Entries in other places make no difference to a record.** -/
theorem outcome_of_isReordering (created : create zones settings source sink = .ok (t, log))
    (parsed : parseStatement settings.statement = .ok s) (parsed' : parseStatement text = .ok s')
    (reordered : s.IsReordering s') {u : Transform} {log' : List Log.Entry}
    (created' : create zones { settings with statement := text } source sink = .ok (u, log'))
    (bytes : List UInt8) (parameters : Parameters) :
    t.outcome bytes parameters = u.outcome bytes parameters := by
  obtain ⟨plan, log'', again, perm, condition⟩ :=
    exists_create_of_isReordering created parsed parsed' reordered
  rw [again] at created'
  obtain ⟨rfl, -⟩ := Prod.mk.inj (Except.ok.inj created')
  -- the outputs are the same in other places, so what they contribute is too
  exact outcome_congr (t := t) (u := { t with plan := plan }) rfl rfl rfl condition
    (nodup_names_of_create created) fun record _ => perm.map _

/-! ## §4. A failing expression. -/

/-- The output at a place has the expression of the entry there. -/
theorem exists_output_of_create (created : create zones settings source sink = .ok (t, log))
    (parsed : parseStatement settings.statement = .ok s) {i : Nat} {item : Item}
    (listed : s.items[i]? = some item) :
    ∃ o, t.plan.outputs[i]? = some o ∧ o.expr = item.expr := by
  obtain ⟨-, -, pairs, -, -⟩ := resolve_eq_ok_iff.1 (resolve_of_create created parsed)
  have at_place : t.plan.outputs[i]?.map Output.toPair =
      some (item.outputName? (t.encoder.fields.map (·.name)) i, item.expr) := by
    rw [← List.getElem?_map, pairs, getElem?_namedExprs, listed]
    rfl
  obtain ⟨o, here, pair⟩ := Option.map_eq_some_iff.1 at_place
  exact ⟨o, here, congrArg Prod.snd pair⟩

/-- **A failing expression is as good as null**, for the record it fails
for. -/
theorem outcome_nullify (created : create zones settings source sink = .ok (t, log))
    (parsed : parseStatement settings.statement = .ok s) {i : Nat} {item : Item}
    (listed : s.items[i]? = some item) {bytes : List UInt8} {parameters : Parameters}
    {record : Binding} (decoded : t.decoder.decode bytes = .ok record) {f : Failure}
    (failed : (Scope.mk t.context record parameters).value item.expr = .error (.failed f)) :
    t.outcome bytes parameters = (t.nullify i).outcome bytes parameters := by
  obtain ⟨o, here, expr⟩ := exists_output_of_create created parsed listed
  refine outcome_congr (t := t) (u := t.nullify i) rfl rfl rfl rfl
    (nodup_names_of_create created) ?_
  intro record' decoded'
  rw [decoded] at decoded'
  obtain rfl := Except.ok.inj decoded'
  have same := Scope.contributions_nullify ⟨t.context, record, parameters⟩ here (expr ▸ failed)
  exact List.Perm.of_eq same.symm

/-! ## §5. Two transforms. -/

/-- **Fields do not know of one another.**  When every entry of a statement
has an alias, its entries may be given in any order: the other transform is
created when the one is, and both give the same for every record, behind
whatever calls.  And whatever the entries are, the expression of one may be
made null: the statement that has null there creates the transform that has
it, and for a record for which the expression fails both give the same. -/
theorem result_run_of_rewriting (parsed : parseStatement settings.statement = .ok s) :
    (∀ text s', parseStatement text = .ok s' → s.IsReordering s' →
      ((∃ made, create zones settings source sink = .ok made) ↔
        ∃ made, create zones { settings with statement := text } source sink = .ok made) ∧
      ∀ t log u log', create zones settings source sink = .ok (t, log) →
        create zones { settings with statement := text } source sink = .ok (u, log') →
        ∀ bytes parameters earlier others,
          (t.run bytes parameters (t.cacheAfter earlier)).result =
            (u.run bytes parameters (u.cacheAfter others)).result) ∧
    (∀ t log, create zones settings source sink = .ok (t, log) →
      ∀ i item, s.items[i]? = some item →
        (∀ text, parseStatement text = .ok (s.nullify i) →
          ∃ log', create zones { settings with statement := text } source sink =
            .ok (t.nullify i, log')) ∧
        ∀ bytes parameters earlier others record f, t.decoder.decode bytes = .ok record →
          (((Scope.mk t.context record parameters).evaluate item.expr).runWith
            (t.cacheAfter earlier)).1 = .error (.failed f) →
          (t.run bytes parameters (t.cacheAfter earlier)).result =
            ((t.nullify i).run bytes parameters ((t.nullify i).cacheAfter others)).result) := by
  constructor
  · intro text s' parsed' reordered
    refine ⟨⟨?_, ?_⟩, ?_⟩
    · intro h
      obtain ⟨⟨t, log⟩, created⟩ := h
      obtain ⟨plan, log', created', -⟩ :=
        exists_create_of_isReordering created parsed parsed' reordered
      exact ⟨_, created'⟩
    · intro h
      obtain ⟨⟨u, log'⟩, created'⟩ := h
      obtain ⟨plan, log, created, -⟩ :=
        exists_create_of_isReordering created' parsed' parsed reordered.symm
      exact ⟨_, created⟩
    · intro t log u log' created created' bytes parameters earlier others
      rw [result_run_of_calls, result_run_of_calls]
      exact outcome_of_isReordering created parsed parsed' reordered created' bytes parameters
  · intro t log created i item listed
    constructor
    · intro text parsed'
      have resolved := resolve_of_create created parsed
      exact exists_create_of_resolve created parsed' (resolve_nullify resolved i)
    · intro bytes parameters earlier others record f decoded failed
      -- the expression fails behind all calls if it fails behind these
      have value : (Scope.mk t.context record parameters).value item.expr = .error (.failed f) :=
        ((Scope.steady_evaluate _ item.expr).fst_eq (t.isSound_cacheAfter earlier)).symm.trans
          failed
      rw [result_run_of_calls, result_run_of_calls]
      exact outcome_nullify created parsed listed decoded value

/-- A year is read from a record that has none: the field is lost, wherever it
stands, as a null field would be. -/
theorem result_run_of_rewriting_lost :
    ∃ t log u log' v log'',
      create .tabulated ⟨"select a as x, year(a) as y from s", "UTC", ["yyyy"]⟩
          ⟨"UTF-8", .defaultDelimited, [⟨"a", none, false⟩]⟩
          ⟨"UTF-8", .defaultKeyed, [⟨"x", none, false⟩, ⟨"y", none, false⟩]⟩ = .ok (t, log) ∧
        create .tabulated ⟨"select year(a) as y, a as x from s", "UTC", ["yyyy"]⟩
          ⟨"UTF-8", .defaultDelimited, [⟨"a", none, false⟩]⟩
          ⟨"UTF-8", .defaultKeyed, [⟨"x", none, false⟩, ⟨"y", none, false⟩]⟩ = .ok (u, log') ∧
        create .tabulated ⟨"select a as x, null as y from s", "UTC", ["yyyy"]⟩
          ⟨"UTF-8", .defaultDelimited, [⟨"a", none, false⟩]⟩
          ⟨"UTF-8", .defaultKeyed, [⟨"x", none, false⟩, ⟨"y", none, false⟩]⟩ = .ok (v, log'') ∧
        (t.run [113] [] .empty).result = (u.run [113] [] .empty).result ∧
        (t.run [113] [] .empty).result = (v.run [113] [] .empty).result := by
  have parsed : parseStatement "select a as x, year(a) as y from s" =
      .ok ⟨[⟨.column "a", some "x"⟩, ⟨.call "year" [.column "a"], some "y"⟩], "s", none⟩ :=
    parseStatement_of_tokens
      (show tokens? _ = some [.word "select", .word "a", .word "as", .word "x", .comma,
        .word "year", .opening, .word "a", .closing, .word "as", .word "y", .word "from",
        .word "s"] by decide +kernel) rfl
  have reordered : parseStatement "select year(a) as y, a as x from s" =
      .ok ⟨[⟨.call "year" [.column "a"], some "y"⟩, ⟨.column "a", some "x"⟩], "s", none⟩ :=
    parseStatement_of_tokens
      (show tokens? _ = some [.word "select", .word "year", .opening, .word "a", .closing,
        .word "as", .word "y", .comma, .word "a", .word "as", .word "x", .word "from",
        .word "s"] by decide +kernel) rfl
  have nullified : parseStatement "select a as x, null as y from s" =
      .ok ⟨[⟨.column "a", some "x"⟩, ⟨.literal .null, some "y"⟩], "s", none⟩ :=
    parseStatement_of_tokens
      (show tokens? _ = some [.word "select", .word "a", .word "as", .word "x", .comma,
        .word "null", .word "as", .word "y", .word "from", .word "s"] by decide +kernel) rfl
  have created : ∃ log, create .tabulated ⟨"select a as x, year(a) as y from s", "UTC", ["yyyy"]⟩
      ⟨"UTF-8", .defaultDelimited, [⟨"a", none, false⟩]⟩
      ⟨"UTF-8", .defaultKeyed, [⟨"x", none, false⟩, ⟨"y", none, false⟩]⟩ =
      .ok (⟨⟨[⟨"x", .column "a"⟩, ⟨"y", .call "year" [.column "a"]⟩], none⟩,
        ⟨Zone.utc, [⟨"yyyy", [.year]⟩]⟩,
        ⟨.utf8, .defaultDelimited, [⟨"a", none, false⟩]⟩,
        ⟨.utf8, .defaultKeyed, [⟨"x", none, false⟩, ⟨"y", none, false⟩]⟩⟩, log) :=
    exists_create rfl rfl (context_utc_year _) parsed rfl
  have aliased : Statement.IsReordering
      ⟨[⟨.column "a", some "x"⟩, ⟨.call "year" [.column "a"], some "y"⟩], "s", none⟩
      ⟨[⟨.call "year" [.column "a"], some "y"⟩, ⟨.column "a", some "x"⟩], "s", none⟩ := by
    refine ⟨?_, .swap _ _ _, rfl, rfl⟩
    intro item listed
    rcases List.mem_pair.1 listed with rfl | rfl
    · exact ⟨"x", rfl⟩
    · exact ⟨"y", rfl⟩
  obtain ⟨log, created⟩ := created
  obtain ⟨order, null⟩ := @result_run_of_rewriting .tabulated
    ⟨"select a as x, year(a) as y from s", "UTC", ["yyyy"]⟩ ⟨"UTF-8", .defaultDelimited, _⟩
    ⟨"UTF-8", .defaultKeyed, _⟩ _ parsed
  obtain ⟨iff, same⟩ := order _ _ reordered aliased
  obtain ⟨⟨u, log'⟩, created'⟩ := iff.1 ⟨_, created⟩
  obtain ⟨created'', same'⟩ := null _ _ created 1 _ rfl
  obtain ⟨log'', created''⟩ := created'' _ nullified
  exact ⟨_, _, u, log', _, log'', created, created', created'',
    same _ _ _ _ created created' [113] [] [] [],
    same' [113] [] [] [] (.ofList [("a", .text "q")]) _ rfl rfl⟩

end Transform

end Recordwise
