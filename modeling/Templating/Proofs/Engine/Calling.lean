import Templating.Proofs.Engine.Calls
import Templating.Proofs.Registry.History
import Templating.Proofs.Template.Calling

/-!
# Engines and the functions of their registry

Whatever function a host has installed can be called: a tag with the name and an empty
argument list is parsed to the call of the function, and a render of it calls the
function that was last installed under the name, once, and shows what it answers.
-/

namespace Templating

variable {σ : Type}

/-- The outcome of a render that consists of one call and shows its answer. -/
def HostCall.shown (limits : Limits) (call : HostCall) : Except Failure String :=
  match call.answer with
  | .ok value =>
      match value.display with
      | .ok text =>
          let escaped := Text.escape text
          if escaped.utf8ByteSize ≤ limits.outputSize then .ok escaped
          else
            .error (.error
              (.exhausted .outputSize limits.outputSize escaped.utf8ByteSize))
      | .error error => .error (.error error)
  | .error (.error error) => .error (.error error)
  | .error (.exception text) =>
      .error (.error
        { cause := .function call.name text
          position := some call.position
          source := some call.source })

namespace Render

variable {environment : Environment σ} {name : String} {function : HostFunction σ}

/-- In a fresh session a call leaves nothing but the state of the host behind. -/
theorem evaluate_call_start
    (found : environment.registry.find? name = some function)
    (data : Scope)
    (host : σ) :
    evaluate environment (.call 0 name []) (Session.start data host) =
      match function [] ⟨environment.limits, 0, environment.source⟩ host with
      | .ok value next => .ok value (Session.start data next)
      | .error (.error error) next => .error (.error error) (Session.start data next)
      | .error (.exception text) next =>
          .error (.error ⟨.function name text, some 0, some environment.source⟩)
            (Session.start data next) := by
  have allowed : (0 : Int) + 1 ≤ environment.limits.callDepth := by
    have positive := environment.limits.callDepth_pos
    omega
  simp only [evaluate, evaluateAll]
  rw [render_bind, Budget.enterCall, charge_spend]
  simp only [Session.start, Budget.fresh, allowed, if_true]
  rw [tryFinally_release]
  simp only [pure_bind, callHost, Registry.call, found]
  cases function [] ⟨environment.limits, 0, environment.source⟩ host with
  | ok value next => rfl
  | error failure next => cases failure <;> rfl

/-- A template of one call shows the answer of the function. -/
theorem renderTemplate_call
    (found : environment.registry.find? name = some function)
    (data : Scope)
    (host : σ) :
    let answered := function [] ⟨environment.limits, 0, environment.source⟩ host
    let rendered :=
      renderTemplate environment data [.output (.call 0 name [])]
        (Session.start data host)
    outcomeOf rendered =
        HostCall.shown environment.limits
          ⟨name, [], 0, environment.source, outcomeOf answered⟩ ∧
      (stateAfter rendered).host = stateAfter answered := by
  have evaluated := evaluate_call_start found data host
  simp only [renderTemplate_start, Session.host_start, renderAll, renderNode]
  rw [render_bind, render_bind, evaluated]
  generalize function [] _ host = answered
  cases answered with
  | error failure next => cases failure <;> exact ⟨rfl, rfl⟩
  | ok value next =>
      dsimp only
      cases displayed : value.display with
      | error error =>
          simp only [outcomeOf, HostCall.shown, displayed]
          exact ⟨rfl, rfl⟩
      | ok text =>
          simp only [outcomeOf, HostCall.shown, displayed, ofExcept, pure_bind,
            emit_apply, Session.start, Budget.fresh, Int.zero_add, Int.ofNat_le]
          by_cases fits :
              (Text.escape text).utf8ByteSize ≤ environment.limits.outputSize
          · rw [if_pos fits, if_pos fits]
            exact ⟨by simp [pure, EStateM.pure, Session.output], rfl⟩
          · rw [if_neg fits, if_neg fits]
            exact ⟨rfl, rfl⟩

end Render

namespace Engine

variable {engine : Engine σ} {source : String}

/-- What the render of an accepted text gives, and what it leaves of the host, are those
of its template. -/
theorem render_of_template
    {template : Template}
    {event : Event}
    (parsed : engine.parse source = .ok (template, event))
    (data : Scope)
    (host : σ) :
    let rendered :=
      Render.renderTemplate engine.environment data template (Session.start data host)
    (engine.render source data host).outcome = outcomeOf rendered ∧
      (engine.render source data host).host = (stateAfter rendered).host := by
  simp only [render, parsed, renderParsed]
  cases Render.renderTemplate engine.environment data template
    (Session.start data host) <;> exact ⟨rfl, rfl⟩

/-- A text that is parsed to one call makes this call, and shows its answer. -/
theorem render_call
    {name : String}
    {function : HostFunction σ}
    {event : Event}
    (parsed : engine.parse source = .ok ([.output (.call 0 name [])], event))
    (found : engine.registry.find? name = some function)
    (data : Scope)
    (host : σ) :
    let answered := function [] ⟨engine.limits, 0, ""⟩ host
    let call : HostCall := ⟨name, [], 0, "", outcomeOf answered⟩
    (engine.render source data host).outcome = call.shown engine.limits ∧
      (engine.render source data host).host = stateAfter answered := by
  obtain ⟨outcome, leaves⟩ := render_of_template parsed data host
  obtain ⟨shown, left⟩ :=
    @Render.renderTemplate_call _ engine.environment _ _ found data host
  exact ⟨outcome.trans shown, leaves.trans left⟩

theorem calls_call
    {name : String}
    {function : HostFunction σ}
    {event : Event}
    (parsed : engine.parse source = .ok ([.output (.call 0 name [])], event))
    (found : engine.registry.find? name = some function)
    (data : Scope)
    (host : σ) :
    engine.calls source data host =
      [⟨name, [], 0, "", outcomeOf (function [] ⟨engine.limits, 0, ""⟩ host)⟩] := by
  have recorded :
      engine.recording.registry.find? name = some (recordingFunction name function) := by
    rw [recording, Registry.find?_recording, found]
    rfl
  rw [calls, (render_call ((parse_recording engine source).trans parsed) recorded data
    (host, [])).2]
  change
    (stateAfter (recordingFunction name function [] ⟨engine.limits, 0, ""⟩ (host, []))).2 =
      _
  simp only [recordingFunction]
  cases function [] ⟨engine.limits, 0, ""⟩ host <;> rfl

/-- Whatever can be registered can be called. A function is installed exactly under the
names that are scanned as a single name. Whichever functions were installed, removed and
copied, a tag with a name that is held and with an empty argument list is parsed to the
call of this name, and a render of it makes exactly this call, of the function that was
last installed under the name, and shows its answer. -/
theorem registered_is_callable :
    (∀ (limits : Limits) (name : String) (registry : Registry σ)
        (function : HostFunction σ),
      name.toList.length ≤ limits.expressionLength →
        ((∃ next, registry.register name (.function function) = .ok next) ↔
          Token.scan limits name = .ok [⟨.name, name, 0⟩])) ∧
      ∀ (operations : List (Registry.Operation σ)) (name : String) (limits : Limits)
        (logsFailures : Bool),
        (Registry.after operations).has name = true →
        name.toList.length + 2 ≤ limits.expressionLength →
          let engine : Engine σ := ⟨.after operations, limits, logsFailures⟩
          let source := "\x7b\x7b" ++ name ++ "()\x7d\x7d"
          ∃ function,
            (∀ other,
                Registry.LastRegistered operations name other ↔ other = function) ∧
              (∃ event,
                engine.parse source = .ok ([.output (.call 0 name [])], event)) ∧
              ∀ (data : Scope) (host : σ),
                let answered := function [] ⟨limits, 0, ""⟩ host
                let call : HostCall := ⟨name, [], 0, "", outcomeOf answered⟩
                engine.calls source data host = [call] ∧
                  (engine.render source data host).outcome = call.shown limits ∧
                    (engine.render source data host).host = stateAfter answered := by
  constructor
  · intro limits name registry function short
    rw [Registry.register_function_eq_ok, Token.scan_eq_name_iff short]
  · intro operations name limits logsFailures held short engine source
    have isName := Registry.isFunctionName_of_has held
    obtain ⟨function, found⟩ := Option.isSome_iff_exists.1 held
    have parsed : engine.parse source = .ok ([.output (.call 0 name [])], _) :=
      (bind_eq_ok ..).2
        ⟨_, Template.parseWithSegments_call isName held short, rfl⟩
    refine ⟨function, fun other => ?_, ⟨_, parsed⟩, fun data host => ?_⟩
    · rw [← Registry.find?_after isName, found, Option.some.injEq]
      exact eq_comm
    · exact ⟨calls_call parsed found data host, render_call parsed found data host⟩

/-- The name of a function is the keyword of a block, and a copy holds the function that
was installed in place of another one. -/
theorem registered_is_callable_keyword :
    let truth : HostFunction Unit := fun _ _ => pure (.boolean true)
    let operations : List (Registry.Operation Unit) :=
      [.register "if" (.function fun _ _ => pure .null), .register "if" (.function truth),
        .copy]
    let engine : Engine Unit := ⟨.after operations, .standard, true⟩
    Token.scan .standard "if" = .ok [⟨.name, "if", 0⟩] ∧
      (Registry.after operations).has "if" = true ∧
      (∃ event,
        engine.parse "\x7b\x7bif()\x7d\x7d" =
          .ok ([.output (.call 0 "if" [])], event)) ∧
      engine.calls "\x7b\x7bif()\x7d\x7d" [] () =
        [⟨"if", [], 0, "", .ok (.boolean true)⟩] := by
  intro truth operations engine
  obtain ⟨registrable, callable⟩ := @registered_is_callable Unit
  have scanned : Token.scan .standard "if" = .ok [⟨.name, "if", 0⟩] :=
    (registrable .standard "if" .empty truth (by decide)).1 ⟨_, rfl⟩
  have last : Registry.LastRegistered operations "if" truth :=
    ⟨[_], [.copy], rfl, by simp [Registry.Operation.Concerns]⟩
  have held : (Registry.after operations).has "if" = true := by
    rw [Registry.has, (Registry.find?_after (by decide) operations truth).2 last]
    rfl
  obtain ⟨function, lasts, parsed, renders⟩ :=
    callable operations "if" .standard true held (by decide)
  obtain rfl := (lasts truth).1 last
  exact ⟨scanned, held, parsed, (renders [] ()).1⟩

end Engine
end Templating
