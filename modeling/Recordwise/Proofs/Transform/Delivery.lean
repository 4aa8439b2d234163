/-
  Recordwise.Proofs.Transform.Delivery
  ────────────────────────────────────
  **Every value of an output record is written.**

  The evaluator binds values to the names of outputs, the encoder walks the
  fields of the sink.  The two meet because a statement resolves only if its
  output names are fields of the sink; where the sink declares no field at
  all, every alias is accepted and nothing is written.  Main statements:

      exists_output_of_evaluated — a bound value is one an output has
      name_mem_of_create         — output names are sink fields, if there are
                                   any
      readsBack_run_iff          — every value of an output record is written,
                                   exactly when the sink has fields
-/
import Recordwise.Proofs.Record.KeyedReading
import Recordwise.Proofs.Transform.SelectOrder

namespace Recordwise

open Query Record

/-! ## §1. What an output record holds. -/

/-- **A contributed value is one that the output has**, and is not null. -/
theorem Scope.value_of_contribution {s : Scope} {o : Output} {name : String} {v : Value}
    (added : s.contribution o = .ok (some (name, v))) :
    name = o.name ∧ s.value o.expr = .ok v ∧ v ≠ .null := by
  unfold contribution at added
  cases given : s.value o.expr with
  | error h =>
      rw [given] at added
      cases h <;> cases added
  | ok w =>
      rw [given] at added
      cases w with
      | null => cases added
      | _ =>
          cases added
          exact ⟨rfl, rfl, nofun⟩

namespace Transform

variable {t : Transform} {s : Scope} {output : Binding}

/-- The output record of a scope holds what its outputs contribute. -/
theorem exists_contributions_of_evaluated (distinct : (t.plan.outputs.map (·.name)).Nodup)
    (evaluated : t.evaluated s = .ok (some output)) :
    ∃ ps : List (Option (String × Value)), t.plan.outputs.map s.contribution = ps.map .ok ∧
      output.IsConsistent ∧ output.toList = ps.filterMap id := by
  obtain ⟨passed, -, behind⟩ := bind_eq_ok_iff.1 evaluated
  cases passed with
  | false => cases behind
  | true =>
      have behind : (Binding.empty.extendAll (t.plan.outputs.map s.contribution)).map t.survived =
          .ok (some output) := behind
      -- a run that leaves the calendar has no output record
      have stays : .error .offCalendar ∉ t.plan.outputs.map s.contribution := by
        intro off
        rw [Binding.extendAll_offCalendar (fun _ => s.eq_offCalendar_of_mem_contributions) off]
          at behind
        cases behind
      obtain ⟨ps, contributed⟩ := exists_map_ok fun h listed =>
        stays (s.eq_offCalendar_of_mem_contributions listed ▸ listed)
      have held : t.survived (Binding.ofList (ps.filterMap id)) = some output := by
        rw [contributed, Binding.extendAll_ok] at behind
        exact Except.ok.inj behind
      have same : Binding.ofList (ps.filterMap id) = output := by
        unfold survived at held
        split at held
        · cases held
        · exact Option.some.inj held
      have names := (s.names_contributions_sublist t.plan.outputs).nodup distinct
      rw [contributed, List.filterMap_map] at names
      rw [← same]
      exact ⟨ps, contributed, Binding.isConsistent_ofList _, Binding.toList_ofList names⟩

/-- **A bound value is one that an output has**, under its name. -/
theorem exists_output_of_evaluated (distinct : (t.plan.outputs.map (·.name)).Nodup)
    (evaluated : t.evaluated s = .ok (some output)) {name : String} {v : Value}
    (bound : (name, v) ∈ output.toList) :
    ∃ o ∈ t.plan.outputs, o.name = name ∧ s.value o.expr = .ok v ∧ v ≠ .null := by
  obtain ⟨ps, contributed, -, held⟩ := exists_contributions_of_evaluated distinct evaluated
  rw [held] at bound
  obtain ⟨p, listed, rfl⟩ := List.mem_filterMap.1 bound
  have added : .ok (some (name, v)) ∈ t.plan.outputs.map s.contribution :=
    contributed ▸ List.mem_map_of_mem listed
  obtain ⟨o, here, same⟩ := List.mem_map.1 added
  obtain ⟨rfl, given, there⟩ := Scope.value_of_contribution same
  exact ⟨o, here, rfl, given, there⟩

/-! ## §2. Where output names come from. -/

variable {zones : Zone.Database} {settings : Settings} {source sink : Schema}
  {log : List Log.Entry}

/-- **Output names are fields of the sink**, if it has any. -/
theorem name_mem_of_create (created : create zones settings source sink = .ok (t, log))
    (fields : sink.fields ≠ []) {o : Output} (listed : o ∈ t.plan.outputs) :
    o.name ∈ sink.fields.map (·.name) := by
  obtain ⟨-, write, -, r, -, resolved, -⟩ := create_eq_ok_iff.1 created
  obtain ⟨-, -, -, -, same⟩ := Schema.codec_eq_ok_iff.1 write
  obtain ⟨each, -, pairs, -, -⟩ := resolve_eq_ok_iff.1 resolved
  rw [same] at each pairs
  have paired : o.toPair ∈ namedExprs (sink.fields.map (·.name)) 0 r.items :=
    pairs ▸ List.mem_map_of_mem listed
  obtain ⟨p, from_items, name⟩ := List.mem_map.1 paired
  have named : p.1.outputName? (sink.fields.map (·.name)) p.2 = some o.name :=
    congrArg Prod.fst name
  have item : p.1 ∈ r.items := List.mem_of_getElem? (List.mem_zipIdx_iff_getElem?.1 from_items)
  unfold Item.outputName? at named
  cases aliased : p.1.alias? with
  | some a =>
      -- an alias is checked against the fields, unless there are none
      rw [aliased] at named
      obtain rfl : a = o.name := Option.some.inj named
      rcases (each p.1 item).2 _ aliased with none_declared | declared
      · exact absurd (List.map_eq_nil_iff.1 none_declared) fields
      · exact declared
  | none =>
      -- without an alias the name is that of the field in the item's place
      rw [aliased] at named
      exact List.mem_of_getElem? named

end Transform

/-! ## §3. What is written. -/

namespace Transform

variable {zones : Zone.Database} {t : Transform} {settings : Settings} {source sink : Schema}
  {log : List Log.Entry}

/-- A run that hands out a text has written the output record. -/
theorem encode_of_delivered {bytes : List UInt8} {parameters : Parameters} {record output : Binding}
    {text : String} (decoded : t.decoder.decode bytes = .ok record)
    (evaluated : t.evaluated ⟨t.context, record, parameters⟩ = .ok (some output))
    (given : t.outcome bytes parameters = .ok [text]) : t.encoder.encode output = .ok text := by
  unfold outcome at given
  rw [decoded] at given
  have given : t.evaluated ⟨t.context, record, parameters⟩ >>= t.delivered = .ok [text] := given
  rw [evaluated] at given
  have given : ((t.encoder.encode output).map fun text => [text]).mapError Halt.failed =
      .ok [text] := given
  cases written : t.encoder.encode output with
  | error f =>
      rw [written] at given
      cases given
  | ok whole =>
      rw [written] at given
      cases given
      rfl

/-- **Every value of an output record is written**, exactly when the sink has
fields: whoever reads the text that is handed out, with the character set and
the delimiters of the sink and a field of the value's name, finds the text of
the value there.  A sink without fields takes every alias and keeps no
value. -/
theorem readsBack_run_iff (created : create zones settings source sink = .ok (t, log))
    {entry pair : Char} (keyed : sink.layout = .keyed entry pair) (hb : entry ≠ '\\')
    (he : pair ≠ '\\') {bytes : List UInt8} {parameters : Parameters}
    {earlier others : List Request} {record output : Binding} {text : String}
    (decoded : t.decoder.decode bytes = .ok record)
    (evaluated : (t.evaluate record parameters (t.cacheAfter earlier)).result = .ok (some output))
    (given : (t.run bytes parameters (t.cacheAfter others)).result = .ok [text])
    {name : String} {v : Value} (bound : (name, v) ∈ output.toList) {reader : Codec}
    (charset : reader.charset = t.encoder.charset) (layout : reader.layout = sink.layout)
    (known : name ∈ reader.fields.map (·.name)) :
    (∃ r said, reader.decode (t.encoder.charset.encode (text.toList ++ ['\r', '\n'])) = .ok r ∧
        v.text? = some said ∧ r.get? name = some (.text said)) ↔
      sink.fields ≠ [] := by
  obtain ⟨-, write, -, -⟩ := create_eq_ok_iff.1 created
  obtain ⟨unique, differ, -, sinkLayout, sinkFields⟩ := Schema.codec_eq_ok_iff.1 write
  rw [keyed] at differ sinkLayout layout
  rw [(t.isSettled_evaluate record parameters _ (t.isSound_cacheAfter earlier)).1] at evaluated
  rw [result_run_of_calls] at given
  -- what the reader binds are the texts that were written for the names it knows
  have read := Codec.decode_keyed sinkLayout hb he (Schema.ne_of_checkLayout differ) charset
    (layout.trans sinkLayout.symm) (encode_of_delivered decoded evaluated given)
  rw [sinkFields] at read
  have found := get?_textPairs_filter reader.fields (Schema.checkFields_eq_ok_iff.1 unique).2
    output name
  constructor
  · rintro ⟨r, said, same, -, there⟩ none_declared
    rw [read] at same
    obtain rfl := Except.ok.inj same
    have written := ((found said).1 there).1
    rw [none_declared] at written
    cases written
  · intro fields
    have distinct := nodup_names_of_create created
    obtain ⟨o, listed, rfl, -, there⟩ := exists_output_of_evaluated distinct evaluated bound
    obtain ⟨ps, -, consistent, -⟩ := exists_contributions_of_evaluated distinct evaluated
    -- so the encoder, which walks the fields, comes past its name
    have written := mem_keyedTexts (name_mem_of_create created fields listed)
      ((Binding.get?_eq_some_iff consistent).2 bound) there
    exact ⟨_, v.render, read, Value.text?_of_ne_null there, (found _).2 ⟨written, known⟩⟩

/-- A value with the delimiters of the sink in it is found in what is written,
behind the default of another field. -/
theorem readsBack_run_escaped :
    ∃ t log output reader r,
      create .tabulated ⟨"select concat(a, '=&') as x from s", "UTC", ["yyyy"]⟩
          ⟨"UTF-8", .defaultDelimited, [⟨"a", none, false⟩]⟩
          ⟨"UTF-8", .defaultKeyed, [⟨"y", some "0", false⟩, ⟨"x", none, false⟩]⟩ = .ok (t, log) ∧
        (t.evaluate (.ofList [("a", .text "q")]) [] .empty).result = .ok (some output) ∧
        output.toList = [("x", .text "q=&")] ∧
        (t.run [113] [] .empty).result = .ok ["y=0&x=q\\=\\&"] ∧
        Schema.codec ⟨"utf8", .defaultKeyed, [⟨"x", none, true⟩]⟩ = .ok reader ∧
        reader.decode (Charset.utf8.encode ("y=0&x=q\\=\\&".toList ++ ['\r', '\n'])) = .ok r ∧
        r.get? "x" = some (.text "q=&") := by
  have parsed : parseStatement "select concat(a, '=&') as x from s" =
      .ok ⟨[⟨.call "concat" [.column "a", .literal (.text "=&")], some "x"⟩], "s", none⟩ :=
    parseStatement_of_tokens
      (show tokens? _ = some [.word "select", .word "concat", .opening, .word "a", .comma,
        .literal (.text "=&"), .closing, .word "as", .word "x", .word "from", .word "s"]
        by decide +kernel) rfl
  have created : ∃ log, create .tabulated ⟨"select concat(a, '=&') as x from s", "UTC", ["yyyy"]⟩
      ⟨"UTF-8", .defaultDelimited, [⟨"a", none, false⟩]⟩
      ⟨"UTF-8", .defaultKeyed, [⟨"y", some "0", false⟩, ⟨"x", none, false⟩]⟩ =
      .ok (⟨⟨[⟨"x", .call "concat" [.column "a", .literal (.text "=&")]⟩], none⟩,
        ⟨Zone.utc, [⟨"yyyy", [.year]⟩]⟩,
        ⟨.utf8, .defaultDelimited, [⟨"a", none, false⟩]⟩,
        ⟨.utf8, .defaultKeyed, [⟨"y", some "0", false⟩, ⟨"x", none, false⟩]⟩⟩, log) :=
    exists_create rfl rfl (context_utc_year _) parsed rfl
  obtain ⟨log, created⟩ := created
  obtain ⟨r, said, read, text, there⟩ := (@readsBack_run_iff _ _ _ _ _ _ created '&' '=' rfl
    (by decide) (by decide) [113] [] [] [] (.ofList [("a", .text "q")])
    (.ofList [("x", .text "q=&")]) "y=0&x=q\\=\\&" rfl rfl rfl "x" (.text "q=&") List.mem_cons_self
    ⟨.utf8, .defaultKeyed, [⟨"x", none, true⟩]⟩ rfl rfl List.mem_cons_self).2 (by simp)
  cases text
  exact ⟨_, log, _, _, r, created, rfl, rfl, rfl, rfl, read, there⟩

/-- A sink without fields takes the alias and writes nothing: the value of the
output record is lost. -/
theorem not_readsBack_undeclared :
    ∃ t log output reader, create .tabulated ⟨"select a as x from s", "UTC", ["yyyy"]⟩
        ⟨"UTF-8", .defaultDelimited, [⟨"a", none, false⟩]⟩ ⟨"UTF-8", .defaultKeyed, []⟩ =
          .ok (t, log) ∧
      t.decoder.decode [49] = .ok (.ofList [("a", .text "1")]) ∧
      (t.evaluate (.ofList [("a", .text "1")]) [] .empty).result = .ok (some output) ∧
      ("x", .text "1") ∈ output.toList ∧ (t.run [49] [] .empty).result = .ok [""] ∧
      Schema.codec ⟨"UTF-8", .defaultKeyed, [⟨"x", none, false⟩]⟩ = .ok reader ∧
      ¬ ∃ r, reader.decode (Charset.utf8.encode ("".toList ++ ['\r', '\n'])) = .ok r ∧
        r.get? "x" = some (.text "1") := by
  have parsed : parseStatement "select a as x from s" =
      .ok ⟨[⟨.column "a", some "x"⟩], "s", none⟩ :=
    parseStatement_of_tokens
      (show tokens? _ = some [.word "select", .word "a", .word "as", .word "x", .word "from",
        .word "s"] by decide +kernel) rfl
  have created : ∃ log, create .tabulated ⟨"select a as x from s", "UTC", ["yyyy"]⟩
      ⟨"UTF-8", .defaultDelimited, [⟨"a", none, false⟩]⟩ ⟨"UTF-8", .defaultKeyed, []⟩ =
      .ok (⟨⟨[⟨"x", .column "a"⟩], none⟩, ⟨Zone.utc, [⟨"yyyy", [.year]⟩]⟩,
        ⟨.utf8, .defaultDelimited, [⟨"a", none, false⟩]⟩, ⟨.utf8, .defaultKeyed, []⟩⟩, log) :=
    exists_create rfl rfl (context_utc_year _) parsed rfl
  obtain ⟨log, created⟩ := created
  have empty : Codec.decode ⟨.utf8, .defaultKeyed, [⟨"x", none, false⟩]⟩
      (Charset.utf8.encode ("".toList ++ ['\r', '\n'])) = .ok Binding.empty := rfl
  refine ⟨_, log, .ofList [("x", .text "1")], ⟨.utf8, .defaultKeyed, [⟨"x", none, false⟩]⟩, created,
    rfl, rfl, List.mem_cons_self, rfl, rfl, ?_⟩
  rintro ⟨r, read, there⟩
  rw [empty] at read
  cases read
  cases there

end Transform

end Recordwise
