import Templating.Proofs.Expr.Nesting
import Templating.Proofs.Render.Nesting

/-!
# The number of calls during an evaluation

At no moment of an evaluation is the number of calls in progress below what it was before,
or above that by more than the negations and calls that stand one inside the other in the
expression. An evaluation that gives a value ends with as many calls in progress as it
began with. One that fails may end with one more, since a call that is refused is not left.
-/

namespace Templating

variable {σ α β : Type}

/-- The number of calls in progress. -/
def Watch.calls (watch : Watch σ) : Int := watch.session.budget.callDepth

namespace Watched

/-- The budgets that are seen from one watch to another, and the last of all, have numbers
of calls within a range. -/
def Climbs (height : Nat) (before after : Watch σ) : Prop :=
  ∃ budgets,
    after.seen = budgets ++ before.seen ∧
      ∀ budget ∈ after.session.budget :: budgets,
        before.calls ≤ budget.callDepth ∧ budget.callDepth ≤ before.calls + height

namespace Climbs

variable {height : Nat} {before between after : Watch σ}

theorem refl (watch : Watch σ) : Climbs 0 watch watch := by
  refine ⟨[], rfl, fun budget member => ?_⟩
  rw [List.mem_singleton.1 member, Watch.calls]
  omega

theorem weaken
    {more : Nat}
    (further : height ≤ more)
    (climbs : Climbs height before after) :
    Climbs more before after := by
  obtain ⟨budgets, seen, inRange⟩ := climbs
  refine ⟨budgets, seen, fun budget member => ?_⟩
  have bounds := inRange budget member
  omega

theorem trans
    (first : Climbs height before between)
    (same : between.calls = before.calls)
    (second : Climbs height between after) :
    Climbs height before after := by
  obtain ⟨earlier, seenEarlier, inRange⟩ := first
  obtain ⟨later, seenLater, alsoInRange⟩ := second
  rw [same] at alsoInRange
  rw [List.forall_mem_cons] at inRange alsoInRange
  refine ⟨later ++ earlier, ?_, List.forall_mem_cons.2 ⟨alsoInRange.1,
    List.forall_mem_append.2 ⟨alsoInRange.2, inRange.2⟩⟩⟩
  rw [seenLater, seenEarlier, List.append_assoc]

/-- One more look. -/
theorem look
    {session : Session σ}
    (keeps : session.budget = before.session.budget) :
    Climbs 0 before ⟨session, session.budget :: before.seen⟩ := by
  refine ⟨[session.budget], rfl, fun budget member => ?_⟩
  simp only [List.mem_cons, List.not_mem_nil, or_false, or_self] at member
  rw [member, keeps, Watch.calls]
  omega

/-- The budget when a call is entered. -/
theorem enter
    {enter : Budget → Budget}
    (up : ∀ budget, (enter budget).callDepth = budget.callDepth + 1) :
    Climbs 1 before (before.change enter) := by
  refine ⟨[enter before.session.budget], rfl, fun budget member => ?_⟩
  obtain rfl : budget = enter before.session.budget := by
    simpa [Watch.change] using member
  rw [up, Watch.calls]
  omega

/-- What is within a range inside a call is within the next one outside. -/
theorem call
    {enter exit : Budget → Budget}
    (up : ∀ budget, (enter budget).callDepth = budget.callDepth + 1)
    (down : ∀ budget, (exit budget).callDepth = budget.callDepth - 1)
    (inside : Climbs height (before.change enter) after) :
    Climbs (height + 1) before (after.change exit) := by
  have entered : (before.change enter).calls = before.calls + 1 := up _
  obtain ⟨first, seenFirst, inRange⟩ : Climbs 1 before (before.change enter) := .enter up
  obtain ⟨budgets, seen, alsoInRange⟩ := inside
  have left := down after.session.budget
  have atEnd :
      before.calls ≤ (exit after.session.budget).callDepth ∧
        (exit after.session.budget).callDepth ≤ before.calls + (height + 1 : Nat) := by
    have bounds := alsoInRange _ List.mem_cons_self
    omega
  refine ⟨exit after.session.budget :: (budgets ++ first), ?_, ?_⟩
  · rw [Watch.change, seen, seenFirst, List.cons_append, List.append_assoc]
  · refine List.forall_mem_cons.2 ⟨atEnd, List.forall_mem_cons.2 ⟨atEnd,
      List.forall_mem_append.2 ⟨fun budget member => ?_, fun budget member => ?_⟩⟩⟩
    · have bounds := alsoInRange budget (List.mem_cons_of_mem _ member)
      omega
    · have bounds := inRange budget (List.mem_cons_of_mem _ member)
      omega

end Climbs

/-- A watched step climbs at most so high, and a value is given with as many calls in
progress as before. -/
structure Calls
    (height : Nat)
    (before : Watch σ)
    (result : EStateM.Result Mishap (Watch σ) α) :
    Prop where
  climbs : Climbs height before (stateAfter result)
  balanced : ∀ {value after}, result = .ok value after → after.calls = before.calls

/-- A step enters at most so many calls one inside the other. -/
def Calling (height : Nat) (watched : Watched σ α) : Prop :=
  ∀ watch : Watch σ, Calls height watch (watched watch)

namespace Calling

variable {height : Nat}

theorem pure (value : α) : Calling (σ := σ) 0 (Pure.pure value) := fun watch =>
  ⟨.refl watch, fun ended => by cases ended; rfl⟩

/-- A look at a step that leaves the budget as it is. -/
theorem look
    {step : Render σ α}
    (keeps : ∀ session, (stateAfter (step session)).budget = session.budget)
    (origin : Origin) :
    Calling 0 (Watched.look origin step) := by
  intro watch
  have kept := keeps watch.session
  unfold Watched.look
  cases stepped : step watch.session with
  | ok value session =>
      rw [stepped] at kept
      refine ⟨.look kept, fun ended => ?_⟩
      cases ended
      exact congrArg Budget.callDepth kept
  | error failure session =>
      rw [stepped] at kept
      exact ⟨.look kept, fun ended => by cases ended⟩

theorem weaken
    {more : Nat}
    {watched : Watched σ α}
    (calling : Calling height watched)
    (further : height ≤ more) :
    Calling more watched := fun watch =>
  ⟨(calling watch).climbs.weaken further, (calling watch).balanced⟩

theorem bind
    {watched : Watched σ α}
    {next : α → Watched σ β}
    (first : Calling height watched)
    (second : ∀ value, Calling height (next value)) :
    Calling height (watched >>= next) := by
  intro watch
  have here := first watch
  rw [bind_apply]
  cases stepped : watched watch with
  | ok value between =>
      rw [stepped] at here
      have there := second value between
      have same := here.balanced rfl
      exact ⟨here.climbs.trans same there.climbs,
        fun ended => (there.balanced ended).trans same⟩
  | error mishap between =>
      rw [stepped] at here
      exact ⟨here.climbs, fun ended => by cases ended⟩

theorem ite
    {condition : Prop}
    [Decidable condition]
    {watched watchedWhenFalse : Watched σ α}
    (calling : Calling height watched)
    (callingWhenFalse : Calling height watchedWhenFalse) :
    Calling height (if condition then watched else watchedWhenFalse) := by
  split
  · exact calling
  · exact callingWhenFalse

/-- A step that follows without calls. -/
theorem andThen
    {watched : Watched σ α}
    {next : α → Watched σ β}
    (first : Calling height watched)
    (second : ∀ value, Calling 0 (next value)) :
    Calling height (watched >>= next) :=
  first.bind fun value => (second value).weaken (Nat.zero_le height)

/-- A call is entered or refused, and one that is entered is left on success and on
failure. -/
theorem call
    {watched : Watched σ α}
    (limits : Limits)
    (calling : Calling height watched) :
    Calling (height + 1)
      (do
        Watched.look .render (Render.charge (Budget.enterCall limits))
        tryFinally watched (Watched.look .render (Render.release Budget.exitCall))) := by
  intro watch
  let enter (budget : Budget) : Budget := { budget with callDepth := budget.callDepth + 1 }
  rw [bind_apply, Watched.look, Budget.enterCall, charge_spend]
  by_cases room : (enter watch.session.budget).callDepth ≤ limits.callDepth
  · rw [if_pos room]
    change Calls _ watch (tryFinally watched _ (watch.change enter))
    have here := calling (watch.change enter)
    have climbs :
        Climbs (height + 1) watch
          ((stateAfter (watched (watch.change enter))).change Budget.exitCall) :=
      here.climbs.call (fun _ => rfl) fun _ => rfl
    rw [tryFinally_apply]
    cases stepped : watched (watch.change enter) with
    | ok value after =>
        rw [stepped] at here climbs
        refine ⟨climbs, fun ended => ?_⟩
        cases ended
        have balanced : after.calls = watch.calls + 1 := here.balanced rfl
        change after.calls - 1 = watch.calls
        omega
    | error mishap after =>
        rw [stepped] at climbs
        exact ⟨climbs, fun ended => by cases ended⟩
  · -- Nothing gives back the count of a call that is refused.
    rw [if_neg room]
    have refused : Climbs (height + 1) watch (watch.change enter) :=
      (Climbs.enter fun _ => rfl).weaken (Nat.le_add_left 1 height)
    exact ⟨refused, fun ended => by cases ended⟩

end Calling

/-! The steps of an evaluation, apart from the calls that it enters, leave the budget as it
is. -/

theorem ofExcept_budget (result : Except Error α) (session : Session σ) :
    (stateAfter (Render.ofExcept result session)).budget = session.budget := by
  cases result <;> rfl

theorem applyUnknown_budget
    (symbol : String)
    (left right : Value)
    (session : Session σ) :
    (stateAfter (Render.applyUnknown symbol left right session)).budget =
      session.budget := by
  unfold Render.applyUnknown
  cases Operands.ofValues left right <;> rfl

variable (environment : Environment σ)

mutual

/-- No more calls are in progress, one inside the other, than the expression nests. -/
theorem evaluate_calling (expr : Expr) :
    Calling expr.nesting (evaluate environment expr) := by
  cases expr with
  | string | number | boolean | null => exact .pure _
  | reference position name => exact .look (fun _ => rfl) .render
  | access position object property =>
      exact (Calling.look (fun _ => rfl) .render).bind fun _ => .pure _
  | call position function arguments =>
      apply Calling.call
      apply (evaluateAll_calling arguments).andThen
      intro values
      exact .look (Render.callHost_budget environment function values position) _
  | unary position operator operand =>
      have inside := (evaluate_calling operand).weaken (Nat.le_add_right _ 1)
      exact inside.andThen fun _ => .pure _
  | binary position operator left right =>
      have first : Calling (max left.nesting right.nesting) (evaluate environment left) :=
        (evaluate_calling left).weaken (Nat.le_max_left _ _)
      have second : Calling (max left.nesting right.nesting) (evaluate environment right) :=
        (evaluate_calling right).weaken (Nat.le_max_right _ _)
      have constant (value : Value) :
          Calling (max left.nesting right.nesting) (pure value : Watched σ Value) :=
        (Calling.pure value).weaken (Nat.zero_le _)
      cases operator with
      | conjunction =>
          apply first.bind
          intro value
          exact .ite (second.andThen fun _ => .pure _) (constant _)
      | disjunction =>
          apply first.bind
          intro value
          exact .ite (constant _) (second.andThen fun _ => .pure _)
      | relation kind =>
          apply first.bind
          intro value
          apply second.andThen
          intro other
          exact (Calling.look (ofExcept_budget _) .render).bind fun _ => .pure _
      | other symbol =>
          apply first.bind
          intro value
          apply second.andThen
          intro other
          exact .look (applyUnknown_budget symbol value other) .render
  | unknown kind => exact .look (fun _ => rfl) .render

theorem evaluateAll_calling (exprs : List Expr) :
    Calling (Expr.nestingAll exprs) (evaluateAll environment exprs) := by
  cases exprs with
  | nil => exact .pure _
  | cons expr rest =>
      have here := (evaluate_calling expr).weaken (Nat.le_max_left _ (Expr.nestingAll rest))
      have further := (evaluateAll_calling rest).weaken (Nat.le_max_right expr.nesting _)
      apply here.bind
      intro value
      exact further.andThen fun _ => .pure _

end

end Watched
end Templating
