/-
  Recordwise.Proofs.Transform.Creation
  ────────────────────────────────────
  **What a created transform is made of.**

  A transform is created from a decoder, an encoder, a context and a
  statement, each of which may be refused; what is created has just these.
  The zone of the context comes from a database of zones, which may be any:
  nothing here looks into it.  Main statements:

      compile_eq_ok_iff        — a text is compiled when it is a statement
                                 that resolves
      create_eq_ok_iff         — a transform is created from its four parts
      exists_create_of_resolve — another statement that resolves replaces the
                                 plan, and nothing else
-/
import Recordwise.Proofs.Query.Resolution
import Recordwise.Transform

namespace Recordwise

open Query

/-- **A text is compiled when it is a statement that resolves.** -/
theorem Query.compile_eq_ok_iff {text : String} {source sink : List Field} {name : String}
    {plan : Plan} :
    compile text source sink = .ok (name, plan) ↔
      ∃ s, parseStatement text = .ok s ∧
        s.resolve (source.map (·.name)) (sink.map (·.name)) = .ok plan ∧ name = s.source := by
  unfold compile
  rw [bind_eq_ok_iff]
  constructor
  · rintro ⟨s, parsed, behind⟩
    cases resolved : s.resolve (source.map (·.name)) (sink.map (·.name)) with
    | error fault =>
        rw [resolved] at behind
        cases behind
    | ok found =>
        rw [resolved] at behind
        cases behind
        exact ⟨s, parsed, resolved, rfl⟩
  · rintro ⟨s, parsed, resolved, rfl⟩
    refine ⟨s, parsed, ?_⟩
    rw [resolved]
    rfl

namespace Transform

variable {zones : Zone.Database} {settings : Settings} {source sink : Schema}

/-- **A transform is created from its four parts**: the codecs of both
schemas, the context of the settings, and the plan of their statement. -/
theorem create_eq_ok_iff {t : Transform} {log : List Log.Entry} :
    create zones settings source sink = .ok (t, log) ↔
      source.codec = .ok t.decoder ∧ sink.codec = .ok t.encoder ∧
        settings.context zones = .ok t.context ∧
        ∃ s, parseStatement settings.statement = .ok s ∧
          s.resolve (t.decoder.fields.map (·.name)) (t.encoder.fields.map (·.name)) = .ok t.plan ∧
          log = planLog s.source t.plan
            ++ [.created t.plan.outputs.length t.context.zone.name] := by
  unfold create
  constructor
  · intro h
    obtain ⟨decoder, read, h⟩ := bind_eq_ok_iff.1 h
    obtain ⟨encoder, write, h⟩ := bind_eq_ok_iff.1 h
    obtain ⟨context, set, h⟩ := bind_eq_ok_iff.1 h
    obtain ⟨⟨name, plan⟩, compiled, h⟩ := bind_eq_ok_iff.1 h
    cases h
    obtain ⟨s, parsed, resolved, rfl⟩ := compile_eq_ok_iff.1 compiled
    exact ⟨read, write, set, s, parsed, resolved, rfl⟩
  · rintro ⟨read, write, set, s, parsed, resolved, rfl⟩
    refine bind_eq_ok_iff.2 ⟨t.decoder, read, bind_eq_ok_iff.2 ⟨t.encoder, write, ?_⟩⟩
    refine bind_eq_ok_iff.2 ⟨t.context, set, bind_eq_ok_iff.2 ⟨(s.source, t.plan), ?_, rfl⟩⟩
    exact compile_eq_ok_iff.2 ⟨s, parsed, resolved, rfl⟩

/-- Four parts that are accepted make a transform. -/
theorem exists_create {decoder encoder : Codec} {context : Context} {s : Statement} {plan : Plan}
    (read : source.codec = .ok decoder) (write : sink.codec = .ok encoder)
    (set : settings.context zones = .ok context)
    (parsed : parseStatement settings.statement = .ok s)
    (resolved : s.resolve (decoder.fields.map (·.name)) (encoder.fields.map (·.name)) =
      .ok plan) :
    ∃ log, create zones settings source sink = .ok (⟨plan, context, decoder, encoder⟩, log) :=
  ⟨_, create_eq_ok_iff.2 ⟨read, write, set, s, parsed, resolved, rfl⟩⟩

/-- The context of universal time and one format, in every database of
zones. -/
theorem context_utc_year (text : String) :
    Settings.context zones ⟨text, "UTC", ["yyyy"]⟩ = .ok ⟨Zone.utc, [⟨"yyyy", [.year]⟩]⟩ := by
  have zone : Zone.ofName zones "UTC" = .ok Zone.utc := Zone.ofName_of_meansUtc zones (by decide)
  exact bind_eq_ok_iff.2 ⟨Zone.utc, zone, rfl⟩

/-- **Another statement that resolves replaces the plan**, and nothing else. -/
theorem exists_create_of_resolve {t : Transform} {log : List Log.Entry}
    (created : create zones settings source sink = .ok (t, log)) {text : String} {s : Statement}
    (parsed : parseStatement text = .ok s) {plan : Plan}
    (resolved : s.resolve (t.decoder.fields.map (·.name)) (t.encoder.fields.map (·.name)) =
      .ok plan) :
    ∃ log', create zones { settings with statement := text } source sink =
      .ok ({ t with plan := plan }, log') := by
  obtain ⟨read, write, set, -⟩ := create_eq_ok_iff.1 created
  -- the context does not read the statement
  have set' : Settings.context zones { settings with statement := text } = .ok t.context := set
  exact exists_create read write set' parsed resolved

end Transform

end Recordwise
