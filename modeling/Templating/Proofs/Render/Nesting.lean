import Templating.Proofs.Render.Traversal

/-!
# The number of blocks during a render

At no moment of a render is the number of blocks in progress below what it was before
a step, or above that by more than the blocks that stand one inside the other in what
is rendered. So no render fails because of its blocks when the limit has room for them.
-/

namespace Templating

variable {σ α β : Type}

/-- The number of blocks in progress. -/
def Watch.blocks (watch : Watch σ) : Int := watch.session.budget.nestingDepth

/-- Change the budget and look at it. -/
def Watch.change (watch : Watch σ) (change : Budget → Budget) : Watch σ where
  session := { watch.session with budget := change watch.session.budget }
  seen := change watch.session.budget :: watch.seen

/-- A call leaves the budget as it is. -/
theorem Render.callHost_budget
    (environment : Environment σ)
    (name : String)
    (arguments : List Value)
    (position : Int)
    (session : Session σ) :
    (stateAfter (Render.callHost environment name arguments position session)).budget =
      session.budget := by
  unfold Render.callHost
  dsimp only
  split <;> rfl

/-- A name without a function is not called. -/
theorem Render.callHost_missing
    (environment : Environment σ)
    {name : String}
    (missing : environment.registry.has name = false)
    (arguments : List Value)
    (position : Int)
    (session : Session σ) :
    Render.callHost environment name arguments position session =
      .error
        (.error
          (.evaluation (.unknownFunction name) (some position)
            (some environment.source)))
        session := by
  have nothing : environment.registry.find? name = none := by
    rwa [Registry.has, Option.isSome_eq_false_iff, Option.isNone_iff_eq_none] at missing
  simp only [Render.callHost, Registry.call, nothing]
  rfl

namespace Watched

open Render (Plain)

/-- The budgets that are seen from one watch to another have numbers of blocks within a
range, and in the end the number is what it was. -/
structure Stays (height : Nat) (before after : Watch σ) : Prop where
  seen :
    ∃ budgets,
      after.seen = budgets ++ before.seen ∧
        ∀ budget ∈ budgets,
          before.blocks ≤ budget.nestingDepth ∧
            budget.nestingDepth ≤ before.blocks + height
  blocks : after.blocks = before.blocks

/-- A watched step stays within a range of numbers of blocks, and the render does not
fail because of its blocks. -/
structure Nested
    (height : Nat)
    (before : Watch σ)
    (result : EStateM.Result Mishap (Watch σ) α) :
    Prop where
  stays : Stays height before (stateAfter result)
  failure :
    ∀ {mishap after},
      result = .error mishap after →
        mishap.origin = .render → ¬mishap.failure.Says Error.IsNesting

/-- Within the limit, a step enters at most so many blocks one inside the other. -/
def Nests (limits : Limits) (height : Nat) (watched : Watched σ α) : Prop :=
  ∀ watch : Watch σ,
    watch.blocks + height ≤ limits.nestingDepth → Nested height watch (watched watch)

variable {limits : Limits} {height : Nat} {before between after : Watch σ}

namespace Stays

theorem refl (watch : Watch σ) : Stays 0 watch watch where
  seen := ⟨[], rfl, by simp⟩
  blocks := rfl

theorem trans
    (first : Stays height before between)
    (second : Stays height between after) :
    Stays height before after where
  seen := by
    obtain ⟨earlier, seenEarlier, inRange⟩ := first.seen
    obtain ⟨later, seenLater, alsoInRange⟩ := second.seen
    rw [first.blocks] at alsoInRange
    refine ⟨later ++ earlier, ?_, List.forall_mem_append.2 ⟨alsoInRange, inRange⟩⟩
    rw [seenLater, seenEarlier, List.append_assoc]
  blocks := second.blocks.trans first.blocks

theorem weaken
    {more : Nat}
    (further : height ≤ more)
    (stays : Stays height before after) :
    Stays more before after where
  seen := by
    obtain ⟨budgets, seen, inRange⟩ := stays.seen
    refine ⟨budgets, seen, fun budget member => ?_⟩
    have bounds := inRange budget member
    omega
  blocks := stays.blocks

/-- One more look. -/
theorem look
    {session : Session σ}
    (keeps : session.budget.nestingDepth = before.blocks) :
    Stays 0 before ⟨session, session.budget :: before.seen⟩ where
  seen := by
    refine ⟨[session.budget], rfl, fun budget member => ?_⟩
    rw [List.mem_singleton.1 member, keeps]
    omega
  blocks := keeps

/-- What stays within a range inside a block stays within the next one outside. -/
theorem block
    {enter exit : Budget → Budget}
    (up : ∀ budget, (enter budget).nestingDepth = budget.nestingDepth + 1)
    (down : ∀ budget, (exit budget).nestingDepth = budget.nestingDepth - 1)
    (stays : Stays height (before.change enter) after) :
    Stays (height + 1) before (after.change exit) := by
  obtain ⟨⟨budgets, seen, inRange⟩, sameBlocks⟩ := stays
  have entered : (before.change enter).blocks = before.blocks + 1 := up _
  have left : (after.change exit).blocks = before.blocks := by
    have afterwards : (after.change exit).blocks = after.blocks - 1 := down _
    omega
  refine ⟨⟨(after.change exit).session.budget ::
    (budgets ++ [(before.change enter).session.budget]), ?_, ?_⟩, left⟩
  · rw [Watch.change, seen, List.cons_append, List.append_assoc]
    rfl
  · refine List.forall_mem_cons.2 ⟨?_, List.forall_mem_append.2 ⟨fun budget member => ?_,
      List.forall_mem_singleton.2 ?_⟩⟩
    · change before.blocks ≤ (after.change exit).blocks ∧
        (after.change exit).blocks ≤ before.blocks + _
      omega
    · have bounds := inRange budget member
      omega
    · change before.blocks ≤ (before.change enter).blocks ∧
        (before.change enter).blocks ≤ before.blocks + _
      omega

end Stays

/-- A look that finds the number of blocks as it was. -/
theorem Nested.look
    {origin : Origin}
    {step : Render σ α}
    (keeps :
      (stateAfter (step before.session)).budget.nestingDepth = before.blocks)
    (failure :
      ∀ {reason after},
        step before.session = .error reason after →
          origin = .render → ¬reason.Says Error.IsNesting) :
    Nested 0 before (Watched.look origin step before) := by
  unfold Watched.look
  cases stepped : step before.session with
  | ok value session =>
      rw [stepped] at keeps
      exact ⟨.look keeps, fun stopped => by cases stopped⟩
  | error reason session =>
      rw [stepped] at keeps
      refine ⟨.look keeps, fun stopped => ?_⟩
      cases stopped
      exact failure stepped

namespace Nests

theorem look {step : Render σ α} (plain : Plain step) :
    Nests limits 0 (Watched.look .render step) :=
  fun watch _ =>
    .look (plain.blocks watch.session) fun stopped _ => (plain.failure stopped).1

/-- A function of the host knows nothing of blocks, and a name without a function is
another failure. -/
theorem callHost
    (environment : Environment σ)
    (name : String)
    (arguments : List Value)
    (position : Int) :
    Nests limits 0 (Watched.callHost environment name arguments position) := by
  intro watch _
  refine .look (congrArg Budget.nestingDepth (Render.callHost_budget ..))
    fun stopped isRender => ?_
  cases has : environment.registry.has name with
  | true =>
      rw [has, if_pos rfl] at isRender
      cases isRender
  | false =>
      rw [Render.callHost_missing environment has] at stopped
      cases stopped
      exact not_false

theorem bind
    {watched : Watched σ α}
    {next : α → Watched σ β}
    (first : Nests limits height watched)
    (second : ∀ value, Nests limits height (next value)) :
    Nests limits height (watched >>= next) := by
  intro watch room
  have here := first watch room
  rw [bind_apply]
  cases stepped : watched watch with
  | ok value after =>
      rw [stepped] at here
      have there := second value after (here.stays.blocks ▸ room)
      exact ⟨here.stays.trans there.stays, there.failure⟩
  | error mishap after =>
      rw [stepped] at here
      refine ⟨here.stays, fun stopped => ?_⟩
      cases stopped
      exact here.failure rfl

theorem ends
    {watched : Watched σ α}
    {last : Render σ Unit}
    (plain : Plain last)
    (nests : Nests limits height watched) :
    Nests limits height (tryFinally watched (Watched.look .render last)) := by
  intro watch room
  have here := nests watch room
  have there :
      Nested 0 (stateAfter (watched watch))
        (Watched.look .render last (stateAfter (watched watch))) :=
    .look (plain.blocks _) fun stopped _ => (plain.failure stopped).1
  have both := here.stays.trans (there.stays.weaken (Nat.zero_le height))
  rw [tryFinally_apply]
  cases ended : Watched.look .render last (stateAfter (watched watch)) with
  | ok _ final =>
      rw [ended] at both
      cases stepped : watched watch with
      | ok value after => exact ⟨both, fun stopped => by cases stopped⟩
      | error mishap after =>
          refine ⟨both, fun stopped => ?_⟩
          cases stopped
          exact here.failure stepped
  | error mishap final =>
      rw [ended] at both there
      refine ⟨both, fun stopped => ?_⟩
      cases stopped
      exact there.failure rfl

/-- A block is entered, since there is room for it, and it is left on success and on
failure. -/
theorem block
    {watched : Watched σ α}
    (nests : Nests limits height watched) :
    Nests limits (height + 1)
      (do
        Watched.look .render (Render.charge (Budget.enterBlock limits))
        tryFinally watched (Watched.look .render (Render.release Budget.exitBlock))) := by
  intro watch room
  let enter (budget : Budget) : Budget :=
    { budget with nestingDepth := budget.nestingDepth + 1 }
  have entered : (watch.change enter).blocks = watch.blocks + 1 := rfl
  have enters :
      Watched.look .render (Render.charge (Budget.enterBlock limits)) watch =
        .ok () (watch.change enter) := by
    rw [Watched.look, Budget.enterBlock, charge_spend, if_pos]
    · rfl
    · change (watch.change enter).blocks ≤ _
      omega
  have here := nests (watch.change enter) (by omega)
  have stays : Stays (height + 1) watch
      ((stateAfter (watched (watch.change enter))).change Budget.exitBlock) :=
    here.stays.block (fun _ => rfl) fun _ => rfl
  rw [bind_apply, enters]
  dsimp only
  rw [tryFinally_apply]
  cases stepped : watched (watch.change enter) with
  | ok value final =>
      rw [stepped] at stays
      exact ⟨stays, fun stopped => by cases stopped⟩
  | error mishap final =>
      rw [stepped] at stays
      refine ⟨stays, fun stopped => ?_⟩
      cases stopped
      exact here.failure stepped

end Nests

/-- Every watched render stays within the block depth of what it renders. -/
def nesting (environment : Environment σ) : Traversal environment where
  Related height watched _ := Nests environment.limits height watched
  MayCall _ := True
  pure _ watch _ := ⟨.refl watch, fun stopped => by cases stopped⟩
  look := .look
  callHost name arguments position _ := .callHost environment name arguments position
  bind := .bind
  ends := .ends
  block := .block
  weaken further nests watch room :=
    have nested := nests watch (by omega)
    ⟨nested.stays.weaken further, nested.failure⟩

/-- A template is rendered within its block depth, and no render fails because of its
blocks when the limit has room for them. -/
theorem nested_renderTemplate
    {environment : Environment σ}
    {template : Template}
    (fits : template.blockDepth ≤ environment.limits.nestingDepth)
    (data : Scope)
    (session : Session σ) :
    (∀ budget ∈
        (stateAfter (renderTemplate environment data template ⟨session, []⟩)).seen,
      0 ≤ budget.nestingDepth ∧ budget.nestingDepth ≤ template.blockDepth) ∧
      ∀ mishap after,
        renderTemplate environment data template ⟨session, []⟩ = .error mishap after →
          mishap.origin = .render → ¬mishap.failure.Says Error.IsNesting := by
  let start : Watch σ := ⟨Session.start data session.host, [.fresh]⟩
  have room : start.blocks + template.blockDepth ≤ environment.limits.nestingDepth := by
    change (0 : Int) + template.blockDepth ≤ _
    omega
  have nests : Nests environment.limits template.blockDepth
      (renderAll environment template) :=
    (nesting environment).renderAll template fun _ _ _ _ => trivial
  have nested := nests start room
  obtain ⟨budgets, seen, inRange⟩ := nested.stays.seen
  have allInRange : ∀ budget ∈ budgets ++ start.seen,
      0 ≤ budget.nestingDepth ∧ budget.nestingDepth ≤ template.blockDepth := by
    refine List.forall_mem_append.2 ⟨fun budget member => ?_,
      List.forall_mem_singleton.2 ⟨Int.le_refl 0, Int.natCast_nonneg _⟩⟩
    have bounds := inRange budget member
    change (0 : Int) ≤ _ ∧ _ ≤ (0 : Int) + _ at bounds
    omega
  rw [← seen] at allInRange
  have unfolded :
      renderTemplate environment data template ⟨session, []⟩ =
        match renderAll environment template start with
        | .ok _ after => .ok after.session.output after
        | .error mishap after => .error mishap after := by
    unfold renderTemplate
    rw [bind_apply]
    change (renderAll environment template >>= _) start = _
    rw [bind_apply]
    cases renderAll environment template start <;> rfl
  rw [unfolded]
  cases rendered : renderAll environment template start with
  | ok value after =>
      rw [rendered] at allInRange
      exact ⟨allInRange, fun _ _ stopped => by cases stopped⟩
  | error mishap after =>
      rw [rendered] at allInRange
      refine ⟨allInRange, fun _ _ stopped => ?_⟩
      cases stopped
      exact nested.failure rendered

end Watched
end Templating
