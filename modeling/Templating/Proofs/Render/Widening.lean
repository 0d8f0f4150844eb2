import Templating.Proofs.Render.Recording

/-!
# Renders within larger limits

Limits only ever stop a render. Within larger limits a render does the same, or it
goes on where it was stopped before, and then the calls that were made up to there
are the first ones of the calls that it makes.
-/

namespace Templating

variable {σ α β : Type}

/-- The functions of a registry do not look at the limits of a call. -/
def Registry.IgnoresLimits (registry : Registry σ) : Prop :=
  ∀ name function, registry.find? name = some function →
    ∀ (arguments : List Value) (context : CallContext) (limits : Limits),
      function arguments { context with limits } = function arguments context

/-- What the functions of the host do with their arguments does not depend on the
limits. -/
theorem Registry.IgnoresLimits.call
    {registry : Registry σ}
    (ignores : registry.IgnoresLimits)
    (name : String)
    (arguments : List Value)
    (limits others : Limits)
    (position : Int)
    (source : String) :
    registry.call name arguments { limits := others, position, source } =
      registry.call name arguments { limits, position, source } := by
  unfold Registry.call
  cases found : registry.find? name with
  | none => rfl
  | some function =>
      exact ignores name function found arguments { limits, position, source } others

theorem Registry.IgnoresLimits.recording
    {registry : Registry σ}
    (ignores : registry.IgnoresLimits) :
    registry.recording.IgnoresLimits := by
  intro name recorded found arguments context limits
  rw [Registry.find?_recording] at found
  obtain ⟨function, isFound, rfl⟩ := Option.map_eq_some_iff.1 found
  funext state
  simp only [recordingFunction, ignores name function isFound]

/-- The same environment with other limits. -/
def Environment.withLimits (environment : Environment σ) (limits : Limits) :
    Environment σ :=
  { environment with limits }

/-- The calls that were recorded until a step ended. -/
def callsOf (result : EStateM.Result Failure (Session (σ × List HostCall)) α) :
    List HostCall :=
  (stateAfter result).host.2

@[simp] theorem callsOf_ok (value : α) (after : Session (σ × List HostCall)) :
    callsOf (.ok value after) = after.host.2 := rfl

@[simp] theorem callsOf_error
    (failure : Failure)
    (after : Session (σ × List HostCall)) :
    callsOf (α := α) (.error failure after) = after.host.2 := rfl

/-- What does not concern the host does not change what was recorded. -/
theorem callsOf_mapState
    {change : Session (σ × List HostCall) → Session (σ × List HostCall)}
    (same : ∀ session, (change session).host = session.host)
    (result : EStateM.Result Failure (Session (σ × List HostCall)) α) :
    callsOf (mapState change result) = callsOf result := by
  cases result <;> simp [callsOf, stateAfter, mapState, same]

/-- A step and the same step within larger limits. -/
structure Widens (step wider : Render (σ × List HostCall) α) : Prop where
  /-- Calls are only added to those that were recorded. -/
  grows : ∀ session, session.host.2 <+: callsOf (wider session)
  /-- Both do the same, or the step within smaller limits fails after some of the
  calls of the other one. -/
  agrees : ∀ session,
    wider session = step session ∨
      ∃ failure after, step session = .error failure after ∧
        after.host.2 <+: callsOf (wider session)

namespace Widens

/-- A step that no limit concerns. -/
theorem same
    {step : Render (σ × List HostCall) α}
    (grows : ∀ session, session.host.2 <+: callsOf (step session)) :
    Widens step step :=
  ⟨grows, fun _ => .inl rfl⟩

/-- A sequence within larger limits goes on where its first or its second step was
stopped. -/
theorem bind
    {step wider : Render (σ × List HostCall) α}
    {next widerNext : α → Render (σ × List HostCall) β}
    (first : Widens step wider)
    (second : ∀ value, Widens (next value) (widerNext value)) :
    Widens (step >>= next) (wider >>= widerNext) := by
  have goesOn : ∀ session,
      callsOf (wider session) <+: callsOf ((wider >>= widerNext) session) := by
    intro session
    rw [render_bind]
    cases wider session with
    | ok value after => exact (second value).grows after
    | error failure after => exact List.prefix_rfl
  constructor
  · intro session
    exact (first.grows session).trans (goesOn session)
  · intro session
    rcases first.agrees session with agree | ⟨failure, after, stopped, fewer⟩
    · rw [render_bind, render_bind, agree]
      cases step session with
      | ok value after => exact (second value).agrees after
      | error failure after => exact .inl rfl
    · refine .inr ⟨failure, after, ?_, fewer.trans (goesOn session)⟩
      rw [render_bind, stopped]

/-- What is within the smaller limit is within the larger one. -/
theorem charge
    (resource : Resource)
    {bound widerBound : Nat}
    (atMost : bound ≤ widerBound)
    (count : Budget → Int)
    (change : Budget → Budget) :
    Widens (σ := σ) (Render.charge (Budget.spend resource bound count change))
      (Render.charge (Budget.spend resource widerBound count change)) := by
  have unchanged : ∀ session : Session (σ × List HostCall),
      callsOf (Render.charge (Budget.spend resource widerBound count change) session) =
        session.host.2 := by
    intro session
    rw [charge_spend]
    split <;> rfl
  constructor
  · intro session
    exact unchanged session ▸ List.prefix_rfl
  · intro session
    rw [unchanged, charge_spend, charge_spend]
    by_cases fits : count (change session.budget) ≤ bound
    · rw [if_pos fits, if_pos (by omega)]
      exact .inl rfl
    · rw [if_neg fits]
      exact .inr ⟨_, _, rfl, List.prefix_rfl⟩

/-- What follows a step in any case, and does not concern the host. -/
theorem mapState
    {step wider step' wider' : Render (σ × List HostCall) α}
    {change : Session (σ × List HostCall) → Session (σ × List HostCall)}
    (widens : Widens step wider)
    (changes : ∀ session, step' session = Templating.mapState change (step session))
    (widerChanges :
      ∀ session, wider' session = Templating.mapState change (wider session))
    (same : ∀ session, (change session).host = session.host) :
    Widens step' wider' := by
  constructor
  · intro session
    rw [widerChanges, callsOf_mapState same]
    exact widens.grows session
  · intro session
    rw [widerChanges, callsOf_mapState same, changes]
    rcases widens.agrees session with agree | ⟨failure, after, stopped, fewer⟩
    · exact .inl (by rw [agree])
    · refine .inr ⟨failure, change after, by rw [stopped]; rfl, ?_⟩
      rwa [same]

theorem release
    {step wider : Render (σ × List HostCall) α}
    (widens : Widens step wider)
    (giving : Budget → Budget) :
    Widens (tryFinally step (Render.release giving))
      (tryFinally wider (Render.release giving)) :=
  widens.mapState (tryFinally_release step giving) (tryFinally_release wider giving)
    fun _ => rfl

theorem closeScope
    {step wider : Render (σ × List HostCall) α}
    (widens : Widens step wider) :
    Widens (tryFinally step Render.closeScope) (tryFinally wider Render.closeScope) :=
  widens.mapState (tryFinally_closeScope step) (tryFinally_closeScope wider)
    fun _ => rfl

/-- A call of the host is the same within all limits, and it is recorded. -/
theorem callHost
    {environment : Environment σ}
    (ignores : environment.registry.IgnoresLimits)
    (limits : Limits)
    (name : String)
    (arguments : List Value)
    (position : Int) :
    Widens (Render.callHost environment.recording name arguments position)
      (Render.callHost (environment.withLimits limits).recording name arguments
        position) := by
  have sameCall :
      Render.callHost (environment.withLimits limits).recording name arguments position =
        Render.callHost environment.recording name arguments position := by
    funext session
    simp only [Render.callHost, Environment.recording, Environment.withLimits,
      ignores.recording.call name arguments environment.limits limits]
  rw [sameCall]
  refine same fun session => ?_
  simp only [Render.callHost, Registry.call, Environment.recording,
    Registry.find?_recording]
  cases environment.registry.find? name with
  | none => exact List.prefix_rfl
  | some function =>
      simp only [Option.map_some, recordingFunction]
      generalize function arguments _ session.host.1 = result
      cases result with
      | ok value host => exact List.prefix_append _ _
      | error failure host => cases failure <;> exact List.prefix_append _ _

end Widens

/-- A render within larger limits, with its calls recorded. -/
def widenedCongruence
    {environment : Environment σ}
    (ignores : environment.registry.IgnoresLimits)
    {limits : Limits}
    (atMost : environment.limits.AtMost limits) :
    Render.Congruence environment.recording
      (environment.withLimits limits).recording where
  Related := Widens
  MayFail _ := True
  source := rfl
  evaluation _ _ := trivial
  pure _ := .same fun _ => List.prefix_rfl
  throw _ := .same fun _ => List.prefix_rfl
  bind := Widens.bind
  resolve _ := .same fun _ => List.prefix_rfl
  callHost := Widens.callHost ignores limits
  call related :=
    (Widens.charge _ atMost.callDepth _ _).bind fun _ => related.release _
  iteration := Widens.charge _ atMost.loopIterations _ _
  emit _ :=
    (Widens.charge _ atMost.outputSize _ _).bind fun _ =>
      .same fun _ => List.prefix_rfl
  block related :=
    (Widens.charge _ atMost.nestingDepth _ _).bind fun _ => related.release _
  scope _ _ _ _ related :=
    (Widens.same fun _ => List.prefix_rfl).bind fun _ => related.closeScope

end Templating
