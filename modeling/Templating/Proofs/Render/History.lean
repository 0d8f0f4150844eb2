import Templating.Proofs.Render.Alike
import Templating.Proofs.Render.Refinement

/-!
# Evaluators with a history

A host may keep a session and ask in turn for templates to be rendered and for
expressions to be evaluated in it. A render begins anew, but an evaluation finds the
session as the request before left it. Whatever is entered on the way is left again,
with one exception: a block or call that is refused has been counted already, and
nothing takes that back. An evaluation therefore shows the history of its session
exactly when a call has been refused since the last render.
-/

namespace Templating

variable {σ α : Type}

/-- What a host asks for. -/
inductive Request
  | render (template : Template)
  | evaluate (expr : Expr)

/-- What a request gives. -/
inductive Answer
  | output (text : String)
  | value (value : Value)

/-- Carry out a request. -/
def Request.perform (environment : Environment σ) (data : Scope) :
    Request → Render σ Answer
  | .render template => do
      let text ← Render.renderTemplate environment data template
      return .output text
  | .evaluate expr => do
      let value ← Render.evaluate environment expr
      return .value value

/-- The session after a number of requests. -/
def history
    (environment : Environment σ)
    (data : Scope)
    (host : σ)
    (requests : List Request) :
    Session σ :=
  requests.foldl
    (fun session request => stateAfter (request.perform environment data session))
    (Session.start data host)

@[simp] theorem history_snoc
    (environment : Environment σ)
    (data : Scope)
    (host : σ)
    (requests : List Request)
    (request : Request) :
    history environment data host (requests ++ [request]) =
      stateAfter
        (request.perform environment data (history environment data host requests)) := by
  simp [history]

/-- A result is the refusal of a block or call beyond a limit. -/
def Refuses (resource : Resource) (result : EStateM.Result Failure (Session σ) α) :
    Prop :=
  ∃ bound depth,
    outcomeOf result = .error (.error (.exhausted resource bound depth))

/-- One of several requests is refused for a resource, and after it nothing has been
rendered. -/
def RefusedSinceRender
    (resource : Resource)
    (environment : Environment σ)
    (data : Scope)
    (host : σ)
    (requests : List Request) :
    Prop :=
  ∃ before request after,
    requests = before ++ request :: after ∧
      (∀ later ∈ after, ∃ expr, later = .evaluate expr) ∧
      Refuses resource
        (request.perform environment data (history environment data host before))

namespace Unbounded

/-- What a step may leave of the surroundings that it began in: a refused block or
call stays counted. -/
inductive Leaves (limits : Limits) (surroundings : Surroundings) :
    EStateM.Result Failure (Session σ) α → Prop
  | balanced
      {result : EStateM.Result Failure (Session σ) α}
      (balanced : surroundingsOf (stateAfter result) = surroundings) :
      Leaves limits surroundings result
  | block
      {depth : Int}
      {after : Session σ}
      (entered : surroundingsOf after = surroundings.inBlock) :
      Leaves limits surroundings
        (.error (.error (.exhausted .nestingDepth limits.nestingDepth depth)) after)
  | call
      {depth : Int}
      {after : Session σ}
      (entered : surroundingsOf after = surroundings.inCall) :
      Leaves limits surroundings
        (.error (.error (.exhausted .callDepth limits.callDepth depth)) after)

variable (limits : Limits)

theorem charge_leaves (occurrence : Occurrence σ) (session : Session σ) :
    Leaves limits (surroundingsOf session) (occurrence.charge limits session) := by
  cases occurrence with
  | hostCall name arguments context host => exact .balanced rfl
  | block depth =>
      simp only [Occurrence.charge]
      split
      · exact .balanced rfl
      · exact .block (by simp [surroundingsOf, Session.move, Surroundings.inBlock])
  | call depth =>
      simp only [Occurrence.charge]
      split
      · exact .balanced rfl
      · exact .call (by simp [surroundingsOf, Session.move, Surroundings.inCall])
  | _ =>
      simp only [Occurrence.charge, Budget.countIteration, charge_spend, emit_apply]
      split <;> exact .balanced rfl

/-- A replay stops with the refusal of an occurrence, and up to there it leaves the
surroundings as they were. -/
theorem replay_leaves (occurrences : List (Occurrence σ)) (session : Session σ) :
    Leaves limits (surroundingsOf session) (replay limits occurrences session) := by
  induction occurrences generalizing session with
  | nil => exact .balanced rfl
  | cons occurrence rest inductionHypothesis =>
      simp only [replay, render_bind]
      cases charged : occurrence.charge limits session with
      | ok value after =>
          rw [← (charge_ok charged).1]
          exact inductionHypothesis after
      | error failure after =>
          have leaves := charge_leaves limits occurrence session
          rw [charged] at leaves
          exact leaves

/-- Whatever a computation within limits enters, it leaves, unless it is refused. -/
theorem bounded_leaves (computation : Unbounded σ α) (session : Session σ) :
    Leaves limits (surroundingsOf session) (bounded limits computation session) := by
  have replayed :=
    replay_leaves limits (computation.run session.host).occurrences session
  simp only [bounded]
  cases replayResult :
    replay limits (computation.run session.host).occurrences session with
  | ok value after =>
      have same := (replay_ok replayResult).1
      cases (computation.run session.host).outcome <;> exact .balanced same
  | error failure after =>
      rw [replayResult] at replayed
      cases replayed with
      | balanced balanced => exact .balanced balanced
      | block entered => exact .block entered
      | call entered => exact .call entered

end Unbounded

open Unbounded (Leaves surroundingsOf Surroundings)

variable (environment : Environment σ) (data : Scope)

/-- Where a request begins: a render in fresh surroundings, an evaluation in those of
the session. -/
def Request.surroundings (session : Session σ) : Request → Surroundings
  | .render _ => .start data
  | .evaluate _ => surroundingsOf session

/-- What a result leaves does not depend on what is made of its value. -/
theorem Unbounded.Leaves.map
    {β : Type}
    {limits : Limits}
    {surroundings : Surroundings}
    {step : Render σ α}
    {session : Session σ}
    (leaves : Leaves limits surroundings (step session))
    (change : α → β) :
    Leaves limits surroundings ((do return change (← step)) session) := by
  rw [render_bind]
  generalize step session = result at leaves
  cases leaves with
  | balanced balanced => cases result <;> exact .balanced balanced
  | block entered => exact .block entered
  | call entered => exact .call entered

/-- A request leaves the surroundings that it begins in, but for the block or call
that is refused. -/
theorem Request.perform_leaves (request : Request) (session : Session σ) :
    Leaves environment.limits (request.surroundings data session)
      (request.perform environment data session) := by
  cases request with
  | evaluate expr =>
      refine Leaves.map ?_ Answer.value
      rw [Unbounded.evaluate_follows environment expr (surroundingsOf session) session rfl]
      exact Unbounded.bounded_leaves _ _ session
  | render template =>
      refine Leaves.map ?_ Answer.output
      rw [Unbounded.renderTemplate_apply]
      have leaves := Unbounded.bounded_leaves environment.limits
        (Unbounded.renderTemplate environment data template)
        (Session.start data session.host)
      generalize Unbounded.bounded environment.limits _ _ = result at leaves ⊢
      cases leaves with
      | balanced balanced => cases result <;> exact .balanced balanced
      | block entered => exact .block entered
      | call entered => exact .call entered

section

variable {environment : Environment σ} {data : Scope} {host : σ}
  {requests : List Request}

/-- A refusal by the last request has not been followed by a render. -/
theorem RefusedSinceRender.last
    {resource : Resource}
    {request : Request}
    (refuses :
      Refuses resource
        (request.perform environment data (history environment data host requests))) :
    RefusedSinceRender resource environment data host (requests ++ [request]) :=
  ⟨requests, request, [], rfl, by simp, refuses⟩

/-- An evaluation takes no refusal back. -/
theorem RefusedSinceRender.evaluate
    {resource : Resource}
    (refused : RefusedSinceRender resource environment data host requests)
    (expr : Expr) :
    RefusedSinceRender resource environment data host (requests ++ [.evaluate expr]) := by
  obtain ⟨before, request, after, rfl, evaluations, refuses⟩ := refused
  refine ⟨before, request, after ++ [.evaluate expr], by simp, ?_, refuses⟩
  exact List.forall_mem_append.2 ⟨evaluations, by simp⟩

/-- What holds between requests: only the data is in scope, and nothing is in
progress but what was refused since the last render. -/
structure Settled
    (environment : Environment σ)
    (data : Scope)
    (host : σ)
    (requests : List Request)
    (surroundings : Surroundings) :
    Prop where
  scopes : surroundings.scopes = [data]
  blocks_nonneg : 0 ≤ surroundings.blocks
  calls_nonneg : 0 ≤ surroundings.calls
  blocks :
    ¬ RefusedSinceRender .nestingDepth environment data host requests →
      surroundings.blocks = 0
  calls :
    ¬ RefusedSinceRender .callDepth environment data host requests →
      surroundings.calls = 0

/-- A further request begins settled. -/
theorem Settled.begin
    (settled :
      Settled environment data host requests
        (surroundingsOf (history environment data host requests)))
    (request : Request) :
    Settled environment data host (requests ++ [request])
      (request.surroundings data (history environment data host requests)) := by
  cases request with
  | render template =>
      exact
        { scopes := rfl
          blocks_nonneg := Int.le_refl 0
          calls_nonneg := Int.le_refl 0
          blocks := fun _ => rfl
          calls := fun _ => rfl }
  | evaluate expr =>
      exact
        { settled with
          blocks := fun allowed =>
            settled.blocks fun refused => allowed (refused.evaluate expr)
          calls := fun allowed =>
            settled.calls fun refused => allowed (refused.evaluate expr) }

/-- After every history only the data is in scope, and nothing is in progress but
what was refused. -/
theorem settled_history
    (environment : Environment σ)
    (data : Scope)
    (host : σ)
    (requests : List Request) :
    Settled environment data host requests
      (surroundingsOf (history environment data host requests)) := by
  induction requests using List.reverseRecOn with
  | nil =>
      exact
        { scopes := rfl
          blocks_nonneg := Int.le_refl 0
          calls_nonneg := Int.le_refl 0
          blocks := fun _ => rfl
          calls := fun _ => rfl }
  | append_singleton requests request inductionHypothesis =>
      have begin := inductionHypothesis.begin request
      have leaves := request.perform_leaves environment data
        (history environment data host requests)
      have last (resource : Resource) :=
        @RefusedSinceRender.last σ environment data host requests resource request
      rw [history_snoc]
      generalize request.perform environment data
        (history environment data host requests) = result at leaves last ⊢
      cases leaves with
      | balanced balanced =>
          rw [balanced]
          exact begin
      | block entered =>
          rw [stateAfter, entered]
          exact
            { scopes := begin.scopes
              blocks_nonneg := Int.le_add_one begin.blocks_nonneg
              calls_nonneg := begin.calls_nonneg
              blocks := fun allowed => absurd (last _ ⟨_, _, rfl⟩) allowed
              calls := begin.calls }
      | call entered =>
          rw [stateAfter, entered]
          exact
            { scopes := begin.scopes
              blocks_nonneg := begin.blocks_nonneg
              calls_nonneg := Int.le_add_one begin.calls_nonneg
              blocks := begin.blocks
              calls := fun allowed => absurd (last _ ⟨_, _, rfl⟩) allowed }

end

theorem outcomeOf_bind_of_error
    {β : Type}
    {first : Render σ α}
    {session : Session σ}
    {failure : Failure}
    (failed : outcomeOf (first session) = .error failure)
    (next : α → Render σ β) :
    outcomeOf ((first >>= next) session) = .error failure := by
  rw [render_bind]
  cases ended : first session with
  | ok value after =>
      rw [ended] at failed
      cases failed
  | error other after =>
      rw [ended] at failed
      cases failed
      rfl

/-- What a call does in a session. -/
theorem evaluate_call
    (position : Int)
    (function : String)
    (arguments : List Expr)
    (session : Session σ) :
    outcomeOf (Render.evaluate environment (.call position function arguments) session) =
      if session.budget.callDepth + 1 ≤ environment.limits.callDepth then
        outcomeOf
          ((do
              let values ← Render.evaluateAll environment arguments
              Render.callHost environment function values position)
            { session with
              budget :=
                { session.budget with callDepth := session.budget.callDepth + 1 } })
      else
        .error
          (.error
            (.exhausted .callDepth environment.limits.callDepth
              (session.budget.callDepth + 1))) := by
  rw [Render.evaluate, render_bind, Budget.enterCall, charge_spend]
  by_cases fits : session.budget.callDepth + 1 ≤ environment.limits.callDepth
  · rw [if_pos fits, if_pos fits]
    dsimp only
    rw [tryFinally_release, outcomeOf_mapState]
  · rw [if_neg fits, if_neg fits]
    rfl

/-- Calls of a function without a name, one inside the other. -/
def nestedCalls : Nat → Expr
  | 0 => .call 0 "" []
  | inside + 1 => .call 0 "" [nestedCalls inside]

/-- No function is without a name. -/
theorem Registry.find?_noName (registry : Registry σ) : registry.find? "" = none := by
  have missing : registry.has "" = false := by
    cases found : registry.has "" with
    | false => rfl
    | true =>
        have valid := Registry.isFunctionName_of_has found
        revert valid
        decide
  exact Option.isNone_iff_eq_none.1 (by simpa [Registry.has] using missing)

/-- Calls within the limit come to the innermost one, which calls no function. -/
theorem outcomeOf_nestedCalls
    (inside : Nat)
    (session : Session σ)
    (fits : session.budget.callDepth + (inside + 1) ≤ environment.limits.callDepth) :
    outcomeOf (Render.evaluate environment (nestedCalls inside) session) =
      .error
        (.error
          (.evaluation (.unknownFunction "") (some 0) (some environment.source))) := by
  induction inside generalizing session with
  | zero =>
      rw [nestedCalls, evaluate_call, if_pos (by omega)]
      simp only [Render.evaluateAll, pure_bind, Render.callHost, Registry.call,
        Registry.find?_noName]
      rfl
  | succ inside inductionHypothesis =>
      rw [nestedCalls, evaluate_call, if_pos (by omega)]
      refine outcomeOf_bind_of_error ?_ _
      rw [Render.evaluateAll]
      exact outcomeOf_bind_of_error (inductionHypothesis _ (by simp only; omega)) _

/-- Calls beyond the limit are refused. -/
theorem outcomeOf_nestedCalls_refused
    (inside : Nat)
    (session : Session σ)
    (exceeds :
      environment.limits.callDepth < session.budget.callDepth + (inside + 1)) :
    ∃ depth,
      outcomeOf (Render.evaluate environment (nestedCalls inside) session) =
        .error
          (.error (.exhausted .callDepth environment.limits.callDepth depth)) := by
  induction inside generalizing session with
  | zero =>
      rw [nestedCalls, evaluate_call, if_neg (by omega)]
      exact ⟨_, rfl⟩
  | succ inside inductionHypothesis =>
      rw [nestedCalls, evaluate_call]
      split
      · obtain ⟨depth, refused⟩ :=
          inductionHypothesis
            { session with
              budget :=
                { session.budget with callDepth := session.budget.callDepth + 1 } }
            (by simp only; omega)
        refine ⟨depth, outcomeOf_bind_of_error ?_ _⟩
        rw [Render.evaluateAll]
        exact outcomeOf_bind_of_error refused _
      · exact ⟨_, rfl⟩

/-- After every history only the data is in scope, and an expression has the value or
failure that it has in a fresh session, exactly as long as no call is in progress.
None is, and no block either, unless one was refused since the last render. -/
theorem evaluate_after_history
    (environment : Environment σ)
    (stateless : environment.registry.IsStateless)
    (data : Scope)
    (host : σ)
    (requests : List Request) :
    let session := history environment data host requests
    session.scopes = [data] ∧
      (¬ RefusedSinceRender .nestingDepth environment data host requests →
        session.budget.nestingDepth = 0) ∧
      (¬ RefusedSinceRender .callDepth environment data host requests →
        session.budget.callDepth = 0) ∧
      ((∀ expr,
        outcomeOf (Render.evaluate environment expr session) =
          outcomeOf
            (Render.evaluate environment expr (Session.start data host))) ↔
        session.budget.callDepth = 0) := by
  intro session
  have settled : Settled environment data host requests (surroundingsOf session) :=
    settled_history environment data host requests
  refine ⟨settled.scopes, settled.blocks, settled.calls, fun same => ?_, ?_⟩
  · -- As many calls as are allowed in a fresh session tell the two apart.
    by_contra entered
    have nonneg : 0 ≤ session.budget.callDepth := settled.calls_nonneg
    have positive := environment.limits.callDepth_pos
    have fresh : (Session.start data host).budget.callDepth = 0 := rfl
    let inside := environment.limits.callDepth - 1
    have reaches :=
      outcomeOf_nestedCalls environment inside (Session.start data host) (by omega)
    obtain ⟨depth, refused⟩ :=
      outcomeOf_nestedCalls_refused environment inside session (by omega)
    have sameCalls := same (nestedCalls inside)
    rw [reaches] at sameCalls
    rw [refused] at sameCalls
    cases sameCalls
  · intro released expr
    exact outcomeOf_evaluate stateless expr ⟨settled.scopes, released⟩

/-- An environment with the identity, which may be called once at a time. -/
def identityOnce : Environment Unit where
  limits := { Limits.standard with callDepth := 1, callDepth_pos := by decide }
  registry := .identity
  source := ""

/-- A call within the limit is not seen by any expression after it. -/
theorem evaluate_after_identity :
    identityOnce.registry.IsStateless ∧
      ∀ expr,
        outcomeOf
            (Render.evaluate identityOnce expr
              (history identityOnce [] ()
                [.evaluate (.call 0 "id" [.boolean 3 true])])) =
          outcomeOf (Render.evaluate identityOnce expr (Session.start [] ())) :=
  ⟨Registry.identity_isStateless,
    (evaluate_after_history identityOnce Registry.identity_isStateless [] ()
      [.evaluate (.call 0 "id" [.boolean 3 true])]).2.2.2.2 rfl⟩

/-- After a call that is refused, a call that is allowed in a fresh session is refused
as well: the session still counts the first one. -/
theorem evaluate_after_refusal :
    let session :=
      history identityOnce [] ()
        [.evaluate (.call 0 "id" [.call 3 "id" [.boolean 6 true]])]
    let expr := Expr.call 0 "id" [.boolean 3 true]
    identityOnce.registry.IsStateless ∧ session.budget.callDepth = 1 ∧
      outcomeOf (Render.evaluate identityOnce expr (Session.start [] ())) =
        .ok (.boolean true) ∧
      outcomeOf (Render.evaluate identityOnce expr session) =
        .error (.error (.exhausted .callDepth 1 2)) :=
  ⟨Registry.identity_isStateless, rfl, rfl, rfl⟩

end Templating
