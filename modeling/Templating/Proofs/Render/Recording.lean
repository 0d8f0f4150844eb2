import Templating.Proofs.Render.Congruence
import Templating.Proofs.Render.Steps

/-!
# Hosts that record their calls

Which functions of the host run, and in which order, can be seen from a host that
appends every call to a list in its state. Recording changes nothing else about a
render. It shows how a render may fail: either the last call has failed, and the
render fails as that call did, or every call has given a value and the failure is
one of the render itself.
-/

namespace Templating

/-- A call of a function of the host, with what the function answered. -/
structure HostCall where
  name : String
  arguments : List Value
  /-- The offset of the call in its expression. -/
  position : Int
  /-- The text that the host gave as the source of the render. -/
  source : String
  answer : Except HostFailure Value

/-- How a call ends a render. A call that gives a value does not. -/
def HostCall.failure? (call : HostCall) : Option Failure :=
  match call.answer with
  | .ok _ => none
  | .error (.error error) => some (.error error)
  | .error (.exception text) =>
      some
        (.error
          { cause := .function call.name text
            position := some call.position
            source := some call.source })

variable {σ α β : Type}

/-- A function that appends its calls to those that the host has recorded. -/
def recordingFunction (name : String) (function : HostFunction σ) :
    HostFunction (σ × List HostCall) := fun arguments context state =>
  let call (answer : Except HostFailure Value) : HostCall :=
    { name, arguments, position := context.position, source := context.source, answer }
  match function arguments context state.1 with
  | .ok value next => .ok value (next, state.2 ++ [call (.ok value)])
  | .error failure next => .error failure (next, state.2 ++ [call (.error failure)])

/-- The same functions, with their calls recorded. -/
def Registry.recording (registry : Registry σ) : Registry (σ × List HostCall) where
  entries := registry.entries.map fun entry =>
    (entry.1, recordingFunction entry.1 entry.2)
  valid := by
    simpa [Entries.names] using registry.valid
  distinct := by
    simpa [Entries.names, Function.comp_def] using registry.distinct

/-- The same environment, with the calls of its functions recorded. -/
def Environment.recording (environment : Environment σ) :
    Environment (σ × List HostCall) where
  limits := environment.limits
  registry := environment.registry.recording
  source := environment.source

theorem Registry.find?_recording (registry : Registry σ) (name : String) :
    registry.recording.find? name =
      (registry.find? name).map (recordingFunction name) := by
  simp only [Registry.find?, Registry.recording]
  induction registry.entries with
  | nil => rfl
  | cons entry rest inductionHypothesis =>
      obtain ⟨key, function⟩ := entry
      simp only [List.map_cons, Entries.find?]
      split
      · next same =>
          subst same
          rfl
      · exact inductionHypothesis

@[simp] theorem Registry.has_recording (registry : Registry σ) :
    registry.recording.has = registry.has := by
  funext name
  simp [Registry.has, Registry.find?_recording]

/-- A session whose host has recorded a number of calls. -/
def Session.withCalls (calls : List HostCall) (session : Session σ) :
    Session (σ × List HostCall) where
  scopes := session.scopes
  budget := session.budget
  pieces := session.pieces
  host := (session.host, calls)

@[simp] theorem Session.host_withCalls (calls : List HostCall) (session : Session σ) :
    (session.withCalls calls).host = (session.host, calls) := rfl

@[simp] theorem Session.withCalls_start
    (calls : List HostCall)
    (data : Scope)
    (host : σ) :
    (Session.start data host).withCalls calls = Session.start data (host, calls) := rfl

/-- Every call has given a value. -/
def Answered (calls : List HostCall) : Prop :=
  ∀ call ∈ calls, call.failure? = none

/-- Several calls explain how a render ended: the last one has failed so, or none
has failed and the failure is one of the render itself. -/
inductive Explains (mayFail : Failure → Prop) : List HostCall → Failure → Prop
  | itself
      {calls : List HostCall}
      {failure : Failure}
      (answered : Answered calls)
      (allowed : mayFail failure) :
      Explains mayFail calls failure
  | host
      {earlier : List HostCall}
      {call : HostCall}
      {failure : Failure}
      (answered : Answered earlier)
      (failed : call.failure? = some failure) :
      Explains mayFail (earlier ++ [call]) failure

theorem Answered.append
    {earlier later : List HostCall}
    (first : Answered earlier)
    (second : Answered later) :
    Answered (earlier ++ later) :=
  List.forall_mem_append.2 ⟨first, second⟩

theorem Explains.append
    {mayFail : Failure → Prop}
    {earlier later : List HostCall}
    {failure : Failure}
    (explains : Explains mayFail later failure)
    (answered : Answered earlier) :
    Explains mayFail (earlier ++ later) failure := by
  cases explains with
  | itself others allowed => exact .itself (answered.append others) allowed
  | host others failed =>
      rw [← List.append_assoc]
      exact .host (answered.append others) failed

/-- What a recorded step leaves behind, next to what the step itself does. -/
inductive RecordedResult (mayFail : Failure → Prop) (earlier : List HostCall) :
    EStateM.Result Failure (Session σ) α →
      EStateM.Result Failure (Session (σ × List HostCall)) α → Prop
  | ok
      {value : α}
      {after : Session σ}
      {calls : List HostCall}
      (answered : Answered calls) :
      RecordedResult mayFail earlier (.ok value after)
        (.ok value (after.withCalls (earlier ++ calls)))
  | error
      {failure : Failure}
      {after : Session σ}
      {calls : List HostCall}
      (explains : Explains mayFail calls failure) :
      RecordedResult mayFail earlier (.error failure after)
        (.error failure (after.withCalls (earlier ++ calls)))

namespace RecordedResult

variable {mayFail : Failure → Prop} {earlier : List HostCall}

/-- A step that calls nothing and gives a value. -/
theorem quiet (value : α) (after : Session σ) :
    RecordedResult mayFail earlier (.ok value after)
      (.ok value (after.withCalls earlier)) := by
  have result :
      RecordedResult mayFail earlier (.ok value after)
        (.ok value (after.withCalls (earlier ++ []))) :=
    .ok (by simp [Answered])
  rwa [List.append_nil] at result

/-- A step that calls nothing and fails. -/
theorem refused {failure : Failure} (allowed : mayFail failure) (after : Session σ) :
    RecordedResult (α := α) mayFail earlier (.error failure after)
      (.error failure (after.withCalls earlier)) := by
  have result :
      RecordedResult (α := α) mayFail earlier (.error failure after)
        (.error failure (after.withCalls (earlier ++ []))) :=
    .error (.itself (by simp [Answered]) allowed)
  rwa [List.append_nil] at result

/-- A change that leaves the host alone does not change what was recorded. -/
theorem mapState
    {result : EStateM.Result Failure (Session σ) α}
    {recorded : EStateM.Result Failure (Session (σ × List HostCall)) α}
    {change : Session σ → Session σ}
    {recordedChange : Session (σ × List HostCall) → Session (σ × List HostCall)}
    (related : RecordedResult mayFail earlier result recorded)
    (same : ∀ (session : Session σ) (calls : List HostCall),
      recordedChange (session.withCalls calls) = (change session).withCalls calls) :
    RecordedResult mayFail earlier (Templating.mapState change result)
      (Templating.mapState recordedChange recorded) := by
  cases related with
  | ok answered =>
      simp only [Templating.mapState, same]
      exact .ok answered
  | error explains =>
      simp only [Templating.mapState, same]
      exact .error explains

end RecordedResult

/-- A step and the same step with its calls recorded. -/
def Recorded
    (mayFail : Failure → Prop)
    (step : Render σ α)
    (recorded : Render (σ × List HostCall) α) :
    Prop :=
  ∀ (session : Session σ) (earlier : List HostCall),
    RecordedResult mayFail earlier (step session)
      (recorded (session.withCalls earlier))

namespace Recorded

variable {mayFail : Failure → Prop}

theorem pure (value : α) :
    Recorded (σ := σ) mayFail (Pure.pure value) (Pure.pure value) :=
  fun session _ => .quiet value session

theorem throw {failure : Failure} (allowed : mayFail failure) :
    Recorded (σ := σ) (α := α) mayFail (MonadExcept.throw failure)
      (MonadExcept.throw failure) :=
  fun session _ => .refused allowed session

theorem resolve (name : String) :
    Recorded (σ := σ) mayFail (Render.resolve name) (Render.resolve name) :=
  fun session _ => .quiet (Session.lookup session.scopes name) session

theorem openScope (scope : Scope) :
    Recorded (σ := σ) mayFail (Render.openScope scope) (Render.openScope scope) :=
  fun session _ => .quiet () { session with scopes := scope :: session.scopes }

/-- The calls of a sequence are those of its first step and then those of its
second. -/
theorem bind
    {step : Render σ α}
    {recorded : Render (σ × List HostCall) α}
    {next : α → Render σ β}
    {recordedNext : α → Render (σ × List HostCall) β}
    (first : Recorded mayFail step recorded)
    (second : ∀ value, Recorded mayFail (next value) (recordedNext value)) :
    Recorded mayFail (step >>= next) (recorded >>= recordedNext) := by
  intro session earlier
  rw [render_bind, render_bind]
  have here := first session earlier
  generalize step session = result at here
  generalize recorded (session.withCalls earlier) = recordedResult at here
  cases here with
  | error explains => exact .error explains
  | @ok value after calls answered =>
      -- What the second step records stands behind what the first one has.
      have there := second value after (earlier ++ calls)
      dsimp only
      generalize next value after = result at there
      generalize recordedNext value (after.withCalls (earlier ++ calls)) =
        recordedResult at there
      cases there with
      | ok others =>
          rw [List.append_assoc]
          exact .ok (answered.append others)
      | error explains =>
          rw [List.append_assoc]
          exact .error (explains.append answered)

/-- The budget is not the host's. -/
theorem charge
    (resource : Resource)
    (bound : Nat)
    (count : Budget → Int)
    (change : Budget → Budget)
    (allowed : ∀ error : Error, error.IsLimit → mayFail (.error error)) :
    Recorded (σ := σ) mayFail
      (Render.charge (Budget.spend resource bound count change))
      (Render.charge (Budget.spend resource bound count change)) := by
  intro session earlier
  rw [charge_spend, charge_spend]
  change RecordedResult mayFail earlier _
    (if count (change session.budget) ≤ bound then _ else _)
  by_cases fits : count (change session.budget) ≤ bound
  · rw [if_pos fits, if_pos fits]
    exact .quiet () { session with budget := change session.budget }
  · rw [if_neg fits, if_neg fits]
    exact .refused (allowed (.exhausted _ _ _) trivial)
      { session with budget := change session.budget }

theorem release
    {step : Render σ α}
    {recorded : Render (σ × List HostCall) α}
    (related : Recorded mayFail step recorded)
    (giving : Budget → Budget) :
    Recorded mayFail (tryFinally step (Render.release giving))
      (tryFinally recorded (Render.release giving)) := by
  intro session earlier
  rw [tryFinally_release, tryFinally_release]
  exact (related session earlier).mapState fun _ _ => rfl

theorem closeScope
    {step : Render σ α}
    {recorded : Render (σ × List HostCall) α}
    (related : Recorded mayFail step recorded) :
    Recorded mayFail (tryFinally step Render.closeScope)
      (tryFinally recorded Render.closeScope) := by
  intro session earlier
  rw [tryFinally_closeScope, tryFinally_closeScope]
  exact (related session earlier).mapState fun _ _ => rfl

/-- A call of the host is recorded with its answer. A name without a function is an
error of the render itself. -/
theorem callHost
    (environment : Environment σ)
    (name : String)
    (arguments : List Value)
    (position : Int)
    (allowed : ∀ error : Error, error.IsEvaluation → mayFail (.error error)) :
    Recorded mayFail (Render.callHost environment name arguments position)
      (Render.callHost environment.recording name arguments position) := by
  intro session earlier
  simp only [Render.callHost, Registry.call, Environment.recording,
    Registry.find?_recording]
  cases environment.registry.find? name with
  | none => exact .refused (allowed (.evaluation _ _ _) trivial) session
  | some function =>
      simp only [Option.map_some, recordingFunction, Session.withCalls]
      generalize function arguments _ session.host = result
      cases result with
      | ok value host =>
          let after : Session σ := { session with host }
          change RecordedResult mayFail earlier (.ok value after)
            (.ok value (after.withCalls (earlier ++ [_])))
          exact .ok (by simp [Answered, HostCall.failure?])
      | error failure host =>
          let after : Session σ := { session with host }
          cases failure with
          | error error =>
              change RecordedResult mayFail earlier (.error _ after)
                (.error _ (after.withCalls (earlier ++ ([] ++ [_]))))
              exact .error (.host (by simp [Answered]) rfl)
          | exception text =>
              change RecordedResult mayFail earlier (.error _ after)
                (.error _ (after.withCalls (earlier ++ ([] ++ [_]))))
              exact .error (.host (by simp [Answered]) rfl)

end Recorded

theorem Environment.source_recording (environment : Environment σ) :
    environment.source = environment.recording.source :=
  rfl

/-- Recording the calls of a render changes nothing else about it, and the calls
show how it fails. -/
def recordedCongruence
    (environment : Environment σ)
    (mayFail : Failure → Prop)
    (limit : ∀ error : Error, error.IsLimit → mayFail (.error error))
    (evaluation : ∀ error : Error, error.IsEvaluation → mayFail (.error error)) :
    Render.Congruence environment environment.recording where
  Related := Recorded mayFail
  MayFail := mayFail
  source := environment.source_recording
  evaluation := evaluation
  pure := Recorded.pure
  throw := Recorded.throw
  bind := Recorded.bind
  resolve := Recorded.resolve
  callHost name arguments position :=
    Recorded.callHost environment name arguments position evaluation
  call related :=
    (Recorded.charge _ _ _ _ limit).bind fun _ => related.release _
  iteration := Recorded.charge _ _ _ _ limit
  emit text :=
    (Recorded.charge _ _ _ _ limit).bind fun _ session _ =>
      .quiet () { session with pieces := text :: session.pieces }
  block related :=
    (Recorded.charge _ _ _ _ limit).bind fun _ => related.release _
  scope scope _ _ _ related :=
    (Recorded.openScope scope).bind fun _ => related.closeScope

/-- A template is rendered as it is when the calls are recorded. -/
theorem Recorded.renderTemplate
    {environment : Environment σ}
    {mayFail : Failure → Prop}
    {template : Template}
    (limit : ∀ error : Error, error.IsLimit → mayFail (.error error))
    (evaluation : ∀ error : Error, error.IsEvaluation → mayFail (.error error))
    (covers : ∀ expr ∈ template.expressions, ∀ symbol ∈ expr.unknownOperators,
      mayFail (.unknownOperator symbol))
    (data : Scope) :
    Recorded mayFail (Render.renderTemplate environment data template)
      (Render.renderTemplate environment.recording data template) := by
  have rendered :=
    (recordedCongruence environment mayFail limit evaluation).renderAll template covers
  intro session earlier
  rw [renderTemplate_start, renderTemplate_start]
  have here := rendered (Session.start data session.host) earlier
  rw [Session.withCalls_start] at here
  rw [Session.host_withCalls]
  generalize Render.renderAll environment template _ = result at here ⊢
  generalize Render.renderAll environment.recording template _ = recorded at here ⊢
  cases here with
  | ok answered => exact .ok answered
  | error explains => exact .error explains

namespace Environment

variable (environment : Environment σ) (data : Scope) (template : Template) (host : σ)

/-- The functions of the host that run while a template is rendered, in order. -/
def calls : List HostCall :=
  (stateAfter
    (Render.renderTemplate environment.recording data template
      (.start data (host, [])))).host.2

/-- Recording the calls changes nothing else that a render gives or leaves behind. -/
theorem render_withCalls :
    let rendered := Render.renderTemplate environment data template (.start data host)
    let recorded :=
      Render.renderTemplate environment.recording data template (.start data (host, []))
    outcomeOf recorded = outcomeOf rendered ∧
      stateAfter recorded =
        (stateAfter rendered).withCalls (environment.calls data template host) := by
  have same :
      Recorded (fun _ => True) (Render.renderTemplate environment data template)
        (Render.renderTemplate environment.recording data template) :=
    .renderTemplate (fun _ _ => trivial) (fun _ _ => trivial) (fun _ _ _ _ => trivial) data
  have recorded := same (.start data host) []
  rw [Session.withCalls_start] at recorded
  simp only [calls]
  generalize Render.renderTemplate environment data template _ = result at recorded ⊢
  generalize Render.renderTemplate environment.recording data template _ = recordedResult
    at recorded ⊢
  cases recorded with
  | ok answered => exact ⟨rfl, rfl⟩
  | error explains => exact ⟨rfl, rfl⟩

end Environment
end Templating
