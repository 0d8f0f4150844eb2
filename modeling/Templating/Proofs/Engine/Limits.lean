import Templating.Proofs.Engine.Calls
import Templating.Proofs.Render.Alike
import Templating.Proofs.Render.Widening
import Templating.Proofs.Template.Limits

/-!
# Engines with larger limits

Limits only guard: an engine with larger limits renders whatever an engine with
smaller ones renders, and its calls go on where those of the other one stop.
-/

namespace Templating

attribute [ext] Run

namespace Engine

variable {σ : Type}

/-- The same engine with other limits. -/
def withLimits (engine : Engine σ) (limits : Limits) : Engine σ :=
  { engine with limits }

variable {engine : Engine σ} {limits : Limits} {source : String}

theorem parse_mono
    {result : Template × Event}
    (atMost : engine.limits.AtMost limits)
    (parsed : engine.parse source = .ok result) :
    (engine.withLimits limits).parse source = .ok result := by
  obtain ⟨found, read, made⟩ := (bind_eq_ok ..).1 parsed
  exact (bind_eq_ok ..).2 ⟨found, Template.parseWithSegments_mono atMost read, made⟩

/-- The render of a parsed template within larger limits, with its calls recorded: it
is the same, or it was stopped after some of the calls. -/
theorem render_recording_withLimits
    {template : Template}
    {event : Event}
    (ignores : engine.registry.IgnoresLimits)
    (atMost : engine.limits.AtMost limits)
    (parsed : engine.parse source = .ok (template, event))
    (data : Scope)
    (host : σ) :
    let run := engine.recording.render source data (host, [])
    let wider := (engine.withLimits limits).recording.render source data (host, [])
    wider = run ∨
      (∃ failure, run.outcome = .error failure) ∧ run.host.2 <+: wider.host.2 := by
  have widens : Widens
      (Render.renderAll engine.environment.recording template)
      (Render.renderAll (engine.environment.withLimits limits).recording template) :=
    (widenedCongruence ignores atMost).renderAll template fun _ _ _ _ => trivial
  have sameEnvironment :
      (engine.withLimits limits).recording.environment =
        (engine.environment.withLimits limits).recording := rfl
  simp only [render, parse_recording, parsed, parse_mono atMost parsed, renderParsed,
    renderTemplate_start, Session.host_start, sameEnvironment, environment_recording]
  rcases widens.agrees (Session.start data (host, [])) with
    agree | ⟨failure, after, stopped, fewer⟩
  · left
    rw [agree]
    cases Render.renderAll engine.environment.recording template
      (Session.start data (host, [])) <;> rfl
  · right
    rw [stopped]
    refine ⟨⟨failure, rfl⟩, fewer.trans ?_⟩
    cases Render.renderAll (engine.environment.withLimits limits).recording template
      (Session.start data (host, [])) <;> exact List.prefix_rfl

/-- An engine with larger limits renders whatever an engine with smaller ones
renders, with the same result and the same calls. Whatever the outcome, the calls
within the smaller limits are the first ones of those within the larger limits. The
functions of the host must not look at the limits. -/
theorem render_withLimits
    (engine : Engine σ)
    (limits : Limits)
    (ignores : engine.registry.IgnoresLimits)
    (atMost : engine.limits.AtMost limits)
    (source : String)
    (data : Scope)
    (host : σ) :
    (∀ output,
      (engine.render source data host).outcome = .ok output →
        (engine.withLimits limits).render source data host =
            engine.render source data host ∧
          (engine.withLimits limits).calls source data host =
            engine.calls source data host) ∧
      engine.calls source data host <+:
        (engine.withLimits limits).calls source data host := by
  obtain ⟨sameOutcome, sameEvents, sameHost⟩ :=
    render_recording engine source data host
  obtain ⟨widerOutcome, widerEvents, widerHost⟩ :=
    render_recording (engine.withLimits limits) source data host
  cases parsed : engine.parse source with
  | error error =>
      constructor
      · intro output rendered
        simp [render, parsed] at rendered
      · simp [calls, render, parsed]
  | ok found =>
      rcases render_recording_withLimits ignores atMost parsed data host with
        agree | ⟨⟨failure, stopped⟩, fewer⟩
      · have sameCalls :
            (engine.withLimits limits).calls source data host =
              engine.calls source data host :=
          congrArg (fun run => run.host.2) agree
        rw [agree] at widerOutcome widerEvents widerHost
        refine ⟨fun output _ => ⟨?_, sameCalls⟩, sameCalls ▸ List.prefix_rfl⟩
        ext1
        · exact widerOutcome.symm.trans sameOutcome
        · exact widerEvents.symm.trans sameEvents
        · exact widerHost.symm.trans sameHost
      · refine ⟨fun output rendered => ?_, fewer⟩
        rw [← sameOutcome, stopped] at rendered
        cases rendered

/-- An engine with the identity, which may be called once at a time. -/
def identifying : Engine Unit :=
  create .identity { Limits.standard with callDepth := 1, callDepth_pos := Nat.one_pos }

theorem identifying_ignoresLimits : identifying.registry.IgnoresLimits := by
  intro name function found arguments context limits
  rw [Registry.eq_of_find?_identity found]

theorem identifying_atMost : identifying.limits.AtMost .standard := by
  constructor <;> decide

theorem identifying_parse :
    identifying.parse "\x7b\x7b id(true) \x7d\x7d" =
      .ok ([.output (.call 0 "id" [.boolean 3 true])], .parsed 1 3 0 2) := by
  have closed :
      Tag.splitClosing? false (Tag.splitRawMark " id(true) \x7d\x7d".toList).2 =
        some (" id(true) ".toList, []) := by
    decide
  have cuts : Segment.Cuts identifying.limits 0 "\x7b\x7b id(true) \x7d\x7d".toList
      [⟨.output, "id(true)", 0⟩] :=
    .tag closed (by decide) (.done 14)
  have assembled :
      Template.ofSegments
          { source := some "\x7b\x7b id(true) \x7d\x7d", known := identifying.registry.has
            limits := identifying.limits }
          [⟨.output, "id(true)", 0⟩] =
        .ok [.output (.call 0 "id" [.boolean 3 true])] := by
    with_unfolding_all rfl
  exact (bind_eq_ok ..).2 ⟨_, Template.parseWithSegments_of_cuts cuts assembled, rfl⟩

/-- What is rendered within one call at a time is rendered within the standard
limits. -/
theorem render_withLimits_identifying :
    identifying.registry.IgnoresLimits ∧ identifying.limits.AtMost .standard ∧
      (identifying.render "\x7b\x7b id(true) \x7d\x7d" [] ()).outcome = .ok "true" ∧
      (identifying.withLimits .standard).render "\x7b\x7b id(true) \x7d\x7d" [] () =
        identifying.render "\x7b\x7b id(true) \x7d\x7d" [] () := by
  have rendered :
      (identifying.render "\x7b\x7b id(true) \x7d\x7d" [] ()).outcome =
        .ok "true" := by
    simp only [render, identifying_parse]
    rfl
  exact ⟨identifying_ignoresLimits, identifying_atMost, rendered,
    ((render_withLimits identifying .standard identifying_ignoresLimits identifying_atMost
      "\x7b\x7b id(true) \x7d\x7d" [] ()).1 "true" rendered).1⟩

end Engine
end Templating
