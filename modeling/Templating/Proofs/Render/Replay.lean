import Templating.Proofs.Render.Steps
import Templating.Proofs.Render.Unbounded

/-!
# Replaying a run within limits

A bounded render is an unbounded run that is stopped where a limit is exceeded:
its occurrences are replayed one by one on a session, and each one is charged to
the budget. The main definition is `Unbounded.Follows`, which says that a step of
a render does exactly that, and the main statements are that it is kept when
steps are put in sequence and when they are put into a block, a call or a scope.
-/

namespace Templating

/-- Move a session further in or out: by a number of blocks and calls, and to
other variables in scope. -/
def Session.move {σ : Type}
    (blocks calls : Int)
    (scopes : List Scope → List Scope)
    (session : Session σ) :
    Session σ :=
  { session with
    scopes := scopes session.scopes
    budget :=
      { session.budget with
        nestingDepth := session.budget.nestingDepth + blocks
        callDepth := session.budget.callDepth + calls } }

namespace Unbounded

variable {σ α β : Type} (limits : Limits)

/-- Charge an occurrence to the budget of a session. A block or call that is not
allowed has been counted, and stays so when all blocks and calls around it are
left. -/
def Occurrence.charge : Occurrence σ → Render σ Unit
  | .block depth => fun session =>
      if depth ≤ limits.nestingDepth then .ok () session
      else
        .error (.error (.exhausted .nestingDepth limits.nestingDepth depth))
          (session.move 1 0 id)
  | .call depth => fun session =>
      if depth ≤ limits.callDepth then .ok () session
      else
        .error (.error (.exhausted .callDepth limits.callDepth depth))
          (session.move 0 1 id)
  | .iteration => Render.charge (Budget.countIteration limits)
  | .hostCall _ _ _ host => fun session => .ok () { session with host }
  | .emission piece => Render.emit limits piece.text

/-- Charge occurrences in order, up to the first one that is not allowed. -/
def replay : List (Occurrence σ) → Render σ Unit
  | [] => pure ()
  | occurrence :: rest => do
      occurrence.charge limits
      replay rest

/-- Run a computation within limits. -/
def bounded (computation : Unbounded σ α) : Render σ α := fun session =>
  let course := computation.run session.host
  match replay limits course.occurrences session, course.outcome with
  | .ok _ next, .ok value => .ok value next
  | .ok _ next, .error failure => .error failure next
  | .error failure next, _ => .error failure next

/-- The surroundings of what is rendered next in a session. -/
def surroundingsOf (session : Session σ) : Surroundings where
  scopes := session.scopes
  blocks := session.budget.nestingDepth
  calls := session.budget.callDepth

/-- A step of a render is a computation within limits, where the session is in
given surroundings. -/
def Follows
    (surroundings : Surroundings)
    (step : Render σ α)
    (computation : Unbounded σ α) :
    Prop :=
  ∀ session : Session σ, surroundingsOf session = surroundings →
    step session = bounded limits computation session

variable {limits}

theorem replay_append
    (first second : List (Occurrence σ))
    (session : Session σ) :
    replay limits (first ++ second) session =
      match replay limits first session with
      | .ok _ after => replay limits second after
      | .error failure after => .error failure after := by
  induction first generalizing session with
  | nil => rfl
  | cons occurrence rest inductionHypothesis =>
      simp only [List.cons_append, replay, render_bind]
      cases occurrence.charge limits session with
      | ok value after => exact inductionHypothesis after
      | error failure after => rfl

/-- An occurrence that is allowed changes neither the variables in scope nor the
numbers of blocks and calls, and it leaves the host as the function of the host
left it. -/
theorem charge_ok
    {occurrence : Occurrence σ}
    {session after : Session σ}
    (charged : occurrence.charge limits session = .ok () after) :
    surroundingsOf after = surroundingsOf session ∧
      after.host = hostAfter session.host [occurrence] := by
  cases occurrence with
  | hostCall name arguments context host =>
      cases charged
      exact ⟨rfl, rfl⟩
  | _ =>
      simp only [Occurrence.charge, Budget.countIteration, charge_spend,
        emit_apply] at charged
      split at charged
      · cases charged
        exact ⟨rfl, rfl⟩
      · cases charged

/-- What is allowed changes neither the variables in scope nor the numbers of
blocks and calls, and it leaves the host as its functions left it. -/
theorem replay_ok
    {occurrences : List (Occurrence σ)}
    {session after : Session σ}
    (replayed : replay limits occurrences session = .ok () after) :
    surroundingsOf after = surroundingsOf session ∧
      after.host = hostAfter session.host occurrences := by
  induction occurrences generalizing session with
  | nil =>
      cases replayed
      exact ⟨rfl, rfl⟩
  | cons occurrence rest inductionHypothesis =>
      simp only [replay, render_bind] at replayed
      split at replayed
      · next middle charged =>
          obtain ⟨sameHere, hostHere⟩ := charge_ok charged
          obtain ⟨sameThere, hostThere⟩ := inductionHypothesis replayed
          refine ⟨sameThere.trans sameHere, ?_⟩
          rw [hostThere, hostHere, ← hostAfter_append]
          rfl
      · cases replayed

/-- Moving a session in or out and charging an occurrence to it can be done in
either order. -/
theorem charge_move
    (occurrence : Occurrence σ)
    (blocks calls : Int)
    (scopes : List Scope → List Scope)
    (session : Session σ) :
    occurrence.charge limits (session.move blocks calls scopes) =
      mapState (Session.move blocks calls scopes)
        (occurrence.charge limits session) := by
  cases occurrence with
  | hostCall name arguments context host => rfl
  | block depth =>
      simp only [Occurrence.charge]
      split
      · rfl
      · simp [mapState, Session.move, Int.add_right_comm]
  | call depth =>
      simp only [Occurrence.charge]
      split
      · rfl
      · simp [mapState, Session.move, Int.add_right_comm]
  | _ =>
      simp only [Occurrence.charge, Budget.countIteration, charge_spend,
        emit_apply, Session.move]
      split <;> rfl

theorem replay_move
    (occurrences : List (Occurrence σ))
    (blocks calls : Int)
    (scopes : List Scope → List Scope)
    (session : Session σ) :
    replay limits occurrences (session.move blocks calls scopes) =
      mapState (Session.move blocks calls scopes)
        (replay limits occurrences session) := by
  induction occurrences generalizing session with
  | nil => rfl
  | cons occurrence rest inductionHypothesis =>
      simp only [replay, render_bind, charge_move]
      cases occurrence.charge limits session with
      | ok value after => exact inductionHypothesis after
      | error failure after => rfl

theorem bounded_move
    (computation : Unbounded σ α)
    (blocks calls : Int)
    (scopes : List Scope → List Scope)
    (session : Session σ) :
    bounded limits computation (session.move blocks calls scopes) =
      mapState (Session.move blocks calls scopes)
        (bounded limits computation session) := by
  have sameHost : (session.move blocks calls scopes).host = session.host := rfl
  simp only [bounded, sameHost, replay_move]
  cases replay limits (computation.run session.host).occurrences session with
  | error failure after => rfl
  | ok value after =>
      cases (computation.run session.host).outcome <;> rfl

/-- Computations in a sequence can be run within limits one by one. -/
theorem bounded_bind
    (first : Unbounded σ α)
    (next : α → Unbounded σ β)
    (session : Session σ) :
    bounded limits (first >>= next) session =
      match bounded limits first session with
      | .ok value after => bounded limits (next value) after
      | .error failure after => .error failure after := by
  simp only [bounded, run_bind]
  cases ended : (first.run session.host).outcome with
  | error failure =>
      simp only
      cases replay limits (first.run session.host).occurrences session <;> rfl
  | ok value =>
      simp only [replay_append]
      cases replayed : replay limits (first.run session.host).occurrences session with
      | error failure after => rfl
      | ok _ after => simp only [(replay_ok replayed).2]

/-- What a computation within limits leaves behind when it succeeds. -/
theorem surroundingsOf_of_bounded
    {computation : Unbounded σ α}
    {session after : Session σ}
    {value : α}
    (succeeded : bounded limits computation session = .ok value after) :
    surroundingsOf after = surroundingsOf session := by
  simp only [bounded] at succeeded
  split at succeeded
  · next replayed _ =>
      cases succeeded
      exact (replay_ok replayed).1
  · cases succeeded
  · cases succeeded

namespace Follows

variable {surroundings : Surroundings}

theorem pure (value : α) :
    Follows (σ := σ) limits surroundings (Pure.pure value) (Pure.pure value) :=
  fun _ _ => rfl

/-- A failure ends a render as it ends a run. -/
theorem throw (failure : Failure) :
    Follows (σ := σ) (α := α) limits surroundings (MonadExcept.throw failure)
      (Unbounded.fail failure) :=
  fun _ _ => rfl

theorem ofExcept (result : Except Error α) :
    Follows (σ := σ) limits surroundings (Render.ofExcept result)
      (Unbounded.ofExcept result) := by
  intro session _
  cases result <;> rfl

/-- Steps in a sequence follow computations in a sequence. -/
theorem bind
    {step : Render σ α}
    {computation : Unbounded σ α}
    {next : α → Render σ β}
    {continuation : α → Unbounded σ β}
    (first : Follows limits surroundings step computation)
    (second : ∀ value,
      Follows limits surroundings (next value) (continuation value)) :
    Follows limits surroundings (step >>= next) (computation >>= continuation) := by
  intro session place
  rw [render_bind, first session place, bounded_bind]
  cases succeeded : bounded limits computation session with
  | error failure after => rfl
  | ok value after =>
      exact second value after
        ((surroundingsOf_of_bounded succeeded).trans place)

end Follows
end Unbounded
end Templating
