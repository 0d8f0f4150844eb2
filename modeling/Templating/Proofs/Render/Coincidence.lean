import Templating.Proofs.Render.Alike
import Templating.Proofs.Render.Recording
import Templating.Proofs.Render.Refinement
import Templating.Proofs.Template.Names

/-!
# Renders depend on free names only

Two surroundings correspond on a number of names when they give these names the same
values, up to a change of names, and stand at the same depth. The value of an expression
is the same in surroundings that correspond on the names that it reads, and the run of a
node is the same where they correspond on its free names. So two renders of a template
are the same when their data agree on its free names.
-/

namespace Templating
namespace Unbounded

variable {σ α β : Type}

namespace Surroundings

/-- Names stand for the same in two surroundings, where the second ones have them under
other names, and the surroundings are equally deep. -/
structure Corresponds
    (change : String → String)
    (names : List String)
    (surroundings other : Surroundings) :
    Prop where
  blocks : surroundings.blocks = other.blocks
  calls : surroundings.calls = other.calls
  lookup : ∀ name ∈ names, surroundings.lookup name = other.lookup (change name)

namespace Corresponds

variable {change : String → String} {names fewer : List String}
  {surroundings other : Surroundings}

theorem subset
    (corresponds : Corresponds change names surroundings other)
    (within : fewer ⊆ names) :
    Corresponds change fewer surroundings other where
  blocks := corresponds.blocks
  calls := corresponds.calls
  lookup name inside := corresponds.lookup name (within inside)

/-- How names are changed matters for those names only. -/
theorem congr
    {otherChange : String → String}
    (corresponds : Corresponds change names surroundings other)
    (same : ∀ name ∈ names, change name = otherChange name) :
    Corresponds otherChange names surroundings other where
  blocks := corresponds.blocks
  calls := corresponds.calls
  lookup name inside := by rw [corresponds.lookup name inside, same name inside]

theorem refl (names : List String) (surroundings : Surroundings) :
    Corresponds id names surroundings surroundings :=
  ⟨rfl, rfl, fun _ _ => rfl⟩

theorem inBlock (corresponds : Corresponds change names surroundings other) :
    Corresponds change names surroundings.inBlock other.inBlock where
  blocks := congrArg (· + 1) corresponds.blocks
  calls := corresponds.calls
  lookup := corresponds.lookup

theorem append :
    Corresponds change (names ++ fewer) surroundings other ↔
      Corresponds change names surroundings other ∧
        Corresponds change fewer surroundings other := by
  constructor
  · intro corresponds
    exact ⟨corresponds.subset (List.subset_append_left ..),
      corresponds.subset (List.subset_append_right ..)⟩
  · rintro ⟨first, second⟩
    exact ⟨first.blocks, first.calls, fun name inside =>
      (List.mem_append.1 inside).elim (first.lookup name) (second.lookup name)⟩

end Corresponds

/-- In an iteration of a loop, surroundings correspond on names when they do so outside
of it on those that the loop does not bind, and the change of names takes just those that
the loop binds to those that the other loop binds. -/
theorem Corresponds.iteration
    {change : String → String}
    {variableName otherName : String}
    {names : List String}
    {surroundings other : Surroundings}
    (corresponds : Corresponds change (unbound variableName names) surroundings other)
    (isLoop : ∀ name, change name = "loop" ↔ name = "loop")
    (isVariable : ∀ name ∈ names, change name = otherName ↔ name = variableName)
    (element loop : Value) :
    Corresponds change names
      (surroundings.withScope (Render.loopScope variableName element loop))
      (other.withScope (Render.loopScope otherName element loop)) where
  blocks := corresponds.blocks
  calls := corresponds.calls
  lookup name inside := by
    simp only [lookup_loopScope, isLoop name, isVariable name inside]
    split
    · rfl
    · next notLoop =>
        split
        · rfl
        · next notVariable =>
            exact corresponds.lookup name
              (mem_unbound.2 ⟨inside, notVariable, notLoop⟩)

end Surroundings

open Surroundings (Corresponds)

variable (environment : Environment σ)

mutual

/-- An expression with changed names has the value of the expression, where the changed
names stand for what the names do. The blocks around it make no difference. -/
theorem evaluate_mapNames
    (expr : Expr)
    {change : String → String}
    {surroundings other : Surroundings}
    (calls : surroundings.calls = other.calls)
    (lookup : ∀ name ∈ expr.names, surroundings.lookup name = other.lookup (change name)) :
    evaluate environment surroundings expr =
      evaluate environment other (expr.mapNames change) := by
  cases expr with
  | string position text => rfl
  | number position value => rfl
  | boolean position value => rfl
  | null position => rfl
  | reference position name =>
      simp only [Expr.mapNames, evaluate]
      rw [lookup name (List.mem_singleton_self name)]
  | access position object property =>
      simp only [Expr.mapNames, evaluate]
      rw [lookup object (List.mem_singleton_self object)]
  | call position function arguments =>
      have values :
          evaluateAll environment surroundings.inCall arguments =
            evaluateAll environment other.inCall (Expr.mapNamesAll change arguments) :=
        evaluateAll_mapNames arguments (congrArg (· + 1) calls) lookup
      simp only [Expr.mapNames, evaluate, values, calls]
  | unary position operator operand =>
      have value := evaluate_mapNames operand calls lookup
      simp only [Expr.mapNames, evaluate, value]
  | binary position operator left right =>
      obtain ⟨onLeft, onRight⟩ := List.forall_mem_append.1 lookup
      have first := evaluate_mapNames left calls onLeft
      have second := evaluate_mapNames right calls onRight
      cases operator <;> simp only [Expr.mapNames, evaluate, first, second]
  | unknown kind => rfl

theorem evaluateAll_mapNames
    (exprs : List Expr)
    {change : String → String}
    {surroundings other : Surroundings}
    (calls : surroundings.calls = other.calls)
    (lookup :
      ∀ name ∈ Expr.namesAll exprs,
        surroundings.lookup name = other.lookup (change name)) :
    evaluateAll environment surroundings exprs =
      evaluateAll environment other (Expr.mapNamesAll change exprs) := by
  cases exprs with
  | nil => rfl
  | cons expr rest =>
      obtain ⟨here, behind⟩ := List.forall_mem_append.1 lookup
      have value := evaluate_mapNames expr calls here
      have values := evaluateAll_mapNames rest calls behind
      simp only [Expr.mapNamesAll, evaluateAll, value, values]

end

/-- The value of an expression depends on the names that it reads only. -/
theorem evaluate_eq
    (expr : Expr)
    {surroundings other : Surroundings}
    (corresponds : Corresponds id expr.names surroundings other) :
    evaluate environment surroundings expr = evaluate environment other expr := by
  simpa using evaluate_mapNames environment expr corresponds.calls corresponds.lookup

/-- The value of an expression is the same inside a block. -/
theorem evaluate_inBlock (expr : Expr) (surroundings : Surroundings) :
    evaluate environment surroundings.inBlock expr =
      evaluate environment surroundings expr := by
  have same :=
    @evaluate_mapNames _ environment expr id surroundings.inBlock surroundings rfl
      fun _ _ => rfl
  rwa [Expr.mapNames_id] at same

/-- Two loops run alike when their bodies do in every iteration. -/
theorem iterate_congr
    {surroundings other : Surroundings}
    {variableName otherName : String}
    {body otherBody : Surroundings → Unbounded σ Unit}
    (same : ∀ element loop,
      body (surroundings.withScope (Render.loopScope variableName element loop)) =
        otherBody (other.withScope (Render.loopScope otherName element loop)))
    (total position : Nat)
    (items : List (Value × Value)) :
    iterate surroundings variableName total body position items =
      iterate other otherName total otherBody position items := by
  induction items generalizing position with
  | nil => rfl
  | cons item rest inductionHypothesis =>
      obtain ⟨index, element⟩ := item
      simp only [iterate, same, inductionHypothesis]

mutual

/-- The run of a node depends on its free names only. -/
theorem renderNode_eq
    (node : Node)
    {surroundings other : Surroundings}
    (corresponds : Corresponds id node.freeNames surroundings other) :
    renderNode environment node surroundings = renderNode environment node other := by
  cases node with
  | text content => rfl
  | output expr => simp only [renderNode, evaluate_eq environment expr corresponds]
  | rawOutput expr => simp only [renderNode, evaluate_eq environment expr corresponds]
  | conditional condition body branches =>
      obtain ⟨onCondition, onBranches⟩ := Corresponds.append.1 corresponds.inBlock
      obtain ⟨onBody, onRest⟩ := Corresponds.append.1 onBranches
      simp only [renderNode, corresponds.blocks,
        evaluate_eq environment condition onCondition, renderAll_eq body onBody,
        renderBranches_eq branches onRest]
  | loop variableName iterable body =>
      obtain ⟨onIterable, onBody⟩ := Corresponds.append.1 corresponds.inBlock
      have iterated := iterate_congr fun element loop =>
        renderAll_eq body
          (onBody.iteration (fun _ => .rfl) (fun _ _ => .rfl) element loop)
      simp only [renderNode, corresponds.blocks,
        evaluate_eq environment iterable onIterable, iterated]
  | unknown kind => rfl

/-- The run of several branches depends on their free names only. -/
theorem renderBranches_eq
    (branches : Branches)
    {surroundings other : Surroundings}
    (corresponds : Corresponds id branches.freeNames surroundings other) :
    renderBranches environment branches surroundings =
      renderBranches environment branches other := by
  cases branches with
  | done => rfl
  | elif condition body branches =>
      obtain ⟨onCondition, onBranches⟩ := Corresponds.append.1 corresponds
      obtain ⟨onBody, onRest⟩ := Corresponds.append.1 onBranches
      simp only [renderBranches, evaluate_eq environment condition onCondition,
        renderAll_eq body onBody, renderBranches_eq branches onRest]
  | otherwise body => exact renderAll_eq body corresponds

/-- The run of several nodes depends on their free names only. -/
theorem renderAll_eq
    (nodes : List Node)
    {surroundings other : Surroundings}
    (corresponds : Corresponds id (Node.freeNamesAll nodes) surroundings other) :
    renderAll environment nodes surroundings = renderAll environment nodes other := by
  cases nodes with
  | nil => rfl
  | cons node rest =>
      obtain ⟨here, behind⟩ := Corresponds.append.1 corresponds
      simp only [renderAll, renderNode_eq node here, renderAll_eq rest behind]

end

/-- The run of a template depends on what its free names stand for in the data only. -/
theorem renderTemplate_eq
    {data other : Scope}
    {template : Template}
    (agree : ∀ name ∈ template.freeNames,
      Session.lookup [data] name = Session.lookup [other] name) :
    renderTemplate environment data template =
      renderTemplate environment other template :=
  renderAll_eq environment template ⟨rfl, rfl, agree⟩

/-- With other data that agree on its free names a template is rendered as it is; only
the variables in scope are others in the end. -/
theorem renderTemplate_data
    {data other : Scope}
    {template : Template}
    (agree : ∀ name ∈ template.freeNames,
      Session.lookup [data] name = Session.lookup [other] name)
    (session : Session σ) :
    Render.renderTemplate environment other template session =
      mapState (Session.move 0 0 fun _ => [other])
        (Render.renderTemplate environment data template session) := by
  have moved :
      Session.start other session.host =
        (Session.start data session.host).move 0 0 fun _ => [other] :=
    rfl
  rw [renderTemplate_apply, renderTemplate_apply, ← renderTemplate_eq environment agree,
    moved, bounded_move]
  cases bounded environment.limits (renderTemplate environment data template)
    (Session.start data session.host) <;> rfl

end Unbounded

namespace Render

variable {σ : Type}

/-- A render depends on the free names of its template only. When two data give every
free name the same value, where a name without one has the value null, the two renders
have the same outcome, the same pieces of output and the same counts in the end, and the
same functions of the host run with the same arguments and leave the host in the same
state. -/
theorem coincides_on_freeNames
    {data other : Scope}
    {template : Template}
    (agree : ∀ name ∈ template.freeNames,
      Session.lookup [data] name = Session.lookup [other] name)
    (environment : Environment σ)
    (session : Session σ) :
    let rendered := renderTemplate environment data template session
    let otherRendered := renderTemplate environment other template session
    outcomeOf otherRendered = outcomeOf rendered ∧
      (stateAfter otherRendered).budget = (stateAfter rendered).budget ∧
      (stateAfter otherRendered).pieces = (stateAfter rendered).pieces ∧
      (stateAfter otherRendered).host = (stateAfter rendered).host ∧
      environment.calls other template session.host =
        environment.calls data template session.host := by
  have same := Unbounded.renderTemplate_data environment agree session
  have sameCalls :
      environment.calls other template session.host =
        environment.calls data template session.host := by
    -- A render begins again with its data, so the session before it may have any.
    have recorded :=
      Unbounded.renderTemplate_data environment.recording agree
        (.start other (session.host, []))
    rw [Environment.calls, recorded, stateAfter_mapState]
    rfl
  simp only [same, outcomeOf_mapState, stateAfter_mapState, sameCalls]
  simp [Session.move]

/-- A loop gives its variable to a function of the host. -/
def identityLoop : Template :=
  [.loop "x" (.reference 0 "xs")
    [.output (.call 0 "id" [.reference 3 "x"]), .output (.access 0 "loop" "first")]]

/-- Data that bind the variable of a loop, or the name `loop`, make no difference to the
loop. -/
theorem coincides_on_freeNames_loop :
    let environment : Environment Unit :=
      { limits := .standard, registry := .identity, source := "" }
    let data : Scope := [("xs", .list [.boolean true])]
    let other : Scope := [("loop", .null), ("x", .boolean false)] ++ data
    identityLoop.freeNames = ["xs"] ∧
      outcomeOf (renderTemplate environment data identityLoop (.start [] ())) =
        .ok "truetrue" ∧
      outcomeOf (renderTemplate environment other identityLoop (.start [] ())) =
        .ok "truetrue" ∧
      environment.calls other identityLoop () =
        environment.calls data identityLoop () := by
  intro environment data other
  have free : identityLoop.freeNames = ["xs"] := by decide
  have rendered :
      outcomeOf (renderTemplate environment data identityLoop (.start [] ())) =
        .ok "truetrue" := by
    decide +kernel
  have agree : ∀ name ∈ identityLoop.freeNames,
      Session.lookup [data] name = Session.lookup [other] name := by
    simp [free, data, other, Session.lookup, Entries.find?]
  obtain ⟨sameOutcome, -, -, -, sameCalls⟩ :=
    coincides_on_freeNames agree environment (.start [] ())
  exact ⟨free, rendered, sameOutcome.trans rendered, sameCalls⟩

end Render
end Templating
