import Templating.Proofs.Render.Coincidence
import Templating.Proofs.Template.Renaming

/-!
# Renders with renamed loop variables

The variable of a loop may have any name that its body does not mention. The two runs
differ in the expressions that their pieces of output come from, which no render looks at,
so they are compared where every piece is plain text. In an iteration the surroundings of
the two bodies correspond on the free names, with the one variable for the other, and this
is kept on the way into the body. Around the loop nothing is renamed.
-/

namespace Templating
namespace Unbounded

variable {σ α β : Type}

/-- A piece of output as literal text. -/
def Piece.plain (piece : Piece) : Piece := .literal piece.text

/-- An occurrence that does not tell what a piece of output was made from. -/
def Occurrence.plain : Occurrence σ → Occurrence σ
  | .emission piece => .emission piece.plain
  | occurrence => occurrence

/-- A computation that does not tell what its pieces of output were made from. -/
def plain (computation : Unbounded σ α) : Unbounded σ α := ⟨fun host =>
  { occurrences := (computation.run host).occurrences.map Occurrence.plain
    outcome := (computation.run host).outcome }⟩

@[simp] theorem charge_plain (limits : Limits) (occurrence : Occurrence σ) :
    occurrence.plain.charge limits = occurrence.charge limits := by
  cases occurrence <;> rfl

@[simp] theorem hostAfter_plain (host : σ) (occurrences : List (Occurrence σ)) :
    hostAfter host (occurrences.map Occurrence.plain) = hostAfter host occurrences := by
  induction occurrences generalizing host with
  | nil => rfl
  | cons occurrence rest inductionHypothesis =>
      cases occurrence <;> exact inductionHypothesis _

@[simp] theorem replay_plain (limits : Limits) (occurrences : List (Occurrence σ)) :
    replay limits (occurrences.map Occurrence.plain) = replay limits occurrences := by
  induction occurrences with
  | nil => rfl
  | cons occurrence rest inductionHypothesis =>
      simp only [List.map_cons, replay, charge_plain, inductionHypothesis]

/-- Within limits a plain computation does what the computation does. -/
@[simp] theorem bounded_plain (limits : Limits) (computation : Unbounded σ α) :
    bounded limits computation.plain = bounded limits computation := by
  funext session
  simp only [bounded, plain, replay_plain]

@[simp] theorem plain_record (occurrence : Occurrence σ) :
    plain (record occurrence) = record occurrence.plain := rfl

@[simp] theorem plain_bind (first : Unbounded σ α) (next : α → Unbounded σ β) :
    plain (first >>= next) = plain first >>= fun value => plain (next value) := by
  apply congrArg Unbounded.mk
  funext host
  change _ = (plain first >>= fun value => plain (next value)).run host
  rw [run_bind, run_bind]
  simp only [plain, hostAfter_plain]
  cases (first.run host).outcome with
  | error failure => rfl
  | ok value => simp only [List.map_append]

@[simp] theorem plain_ite
    (condition : Prop)
    [Decidable condition]
    (first second : Unbounded σ α) :
    plain (if condition then first else second) =
      if condition then plain first else plain second :=
  apply_ite plain condition first second

theorem plain_iterate
    (surroundings : Surroundings)
    (variableName : String)
    (total position : Nat)
    (body : Surroundings → Unbounded σ Unit)
    (items : List (Value × Value)) :
    plain (iterate surroundings variableName total body position items) =
      iterate surroundings variableName total (fun inside => plain (body inside)) position
        items := by
  induction items generalizing position with
  | nil => rfl
  | cons item rest inductionHypothesis =>
      obtain ⟨index, element⟩ := item
      simp only [iterate, plain_bind, plain_record, Occurrence.plain, inductionHypothesis]

/-- Two loops run alike when their bodies do in every iteration. -/
theorem plain_iterate_congr
    {surroundings other : Surroundings}
    {variableName otherName : String}
    {body otherBody : Surroundings → Unbounded σ Unit}
    (same : ∀ element loop,
      plain (body (surroundings.withScope (Render.loopScope variableName element loop))) =
        plain (otherBody (other.withScope (Render.loopScope otherName element loop))))
    (total position : Nat)
    (items : List (Value × Value)) :
    plain (iterate surroundings variableName total body position items) =
      plain (iterate other otherName total otherBody position items) := by
  rw [plain_iterate, plain_iterate]
  exact iterate_congr same total position items

open Surroundings (Corresponds)

variable (environment : Environment σ) {old new : String}

/-- In an iteration of an inner loop the body runs as the renamed one does, if it does so
wherever surroundings correspond on its free names. In the body of a loop over the old
name nothing is renamed, and nothing there stands for another thing than before. -/
theorem plain_body_rename
    {body : List Node}
    {surroundings other : Surroundings}
    {variableName : String}
    (oldFree : "loop" ≠ old)
    (newFree : "loop" ≠ new)
    (runs : ∀ {inside otherInside : Surroundings},
      Corresponds (renamed old new) (Node.freeNamesAll body) inside otherInside →
        plain (renderAll environment body inside) =
          plain (renderAll environment (Node.renameAll old new body) otherInside))
    (fresh : new ≠ variableName)
    (corresponds :
      Corresponds (renamed old new) (unbound variableName (Node.freeNamesAll body))
        surroundings other)
    (element loop : Value) :
    plain
        (renderAll environment body
          (surroundings.withScope (Render.loopScope variableName element loop))) =
      plain
        (renderAll environment
          (if variableName = old then body else Node.renameAll old new body)
          (other.withScope (Render.loopScope variableName element loop))) := by
  by_cases shadows : variableName = old
  · subst shadows
    have unchanged :
        Corresponds id (unbound variableName (Node.freeNamesAll body)) surroundings
          other :=
      corresponds.congr fun name inside => renamed_of_ne (mem_unbound.1 inside).2.1 new
    have inBody := unchanged.iteration (fun _ => .rfl) (fun _ _ => .rfl) element loop
    rw [if_pos rfl, renderAll_eq environment body inBody]
  · rw [if_neg shadows]
    apply runs
    exact corresponds.iteration (renamed_eq_iff oldFree newFree)
      (fun name _ => renamed_eq_iff shadows fresh.symm name) element loop

mutual

theorem plain_renderNode_rename
    (node : Node)
    {surroundings other : Surroundings}
    (oldFree : "loop" ≠ old)
    (newFree : "loop" ≠ new)
    (fresh : new ∉ node.mentioned)
    (corresponds : Corresponds (renamed old new) node.freeNames surroundings other) :
    plain (renderNode environment node surroundings) =
      plain (renderNode environment (node.rename old new) other) := by
  cases node with
  | text content => rfl
  | output expr =>
      have value := evaluate_mapNames environment expr corresponds.calls corresponds.lookup
      simp only [Node.rename, renderNode, value, plain_bind, plain_record]
      rfl
  | rawOutput expr =>
      have value := evaluate_mapNames environment expr corresponds.calls corresponds.lookup
      simp only [Node.rename, renderNode, value, plain_bind, plain_record]
      rfl
  | conditional condition body branches =>
      simp only [Node.mentioned, List.mem_append, not_or] at fresh
      obtain ⟨onCondition, onBranches⟩ := Corresponds.append.1 corresponds.inBlock
      obtain ⟨onBody, onRest⟩ := Corresponds.append.1 onBranches
      have value :=
        evaluate_mapNames environment condition onCondition.calls onCondition.lookup
      have first := plain_renderAll_rename body oldFree newFree fresh.2.1 onBody
      have rest := plain_renderBranches_rename branches oldFree newFree fresh.2.2 onRest
      simp only [Node.rename, renderNode, corresponds.blocks, value, plain_bind, plain_ite,
        first, rest]
  | loop variableName iterable body =>
      simp only [Node.mentioned, List.mem_cons, List.mem_append, not_or] at fresh
      obtain ⟨onIterable, onBody⟩ := Corresponds.append.1 corresponds.inBlock
      have value :=
        evaluate_mapNames environment iterable onIterable.calls onIterable.lookup
      have iterated := plain_iterate_congr
        (plain_body_rename environment oldFree newFree
          (plain_renderAll_rename body oldFree newFree fresh.2.2) fresh.1 onBody)
      simp only [Node.rename, renderNode, corresponds.blocks, value, plain_bind,
        plain_record, iterated]
  | unknown kind => rfl

theorem plain_renderBranches_rename
    (branches : Branches)
    {surroundings other : Surroundings}
    (oldFree : "loop" ≠ old)
    (newFree : "loop" ≠ new)
    (fresh : new ∉ branches.mentioned)
    (corresponds : Corresponds (renamed old new) branches.freeNames surroundings other) :
    plain (renderBranches environment branches surroundings) =
      plain (renderBranches environment (branches.rename old new) other) := by
  cases branches with
  | done => rfl
  | elif condition body branches =>
      simp only [Branches.mentioned, List.mem_append, not_or] at fresh
      obtain ⟨onCondition, onBranches⟩ := Corresponds.append.1 corresponds
      obtain ⟨onBody, onRest⟩ := Corresponds.append.1 onBranches
      have value :=
        evaluate_mapNames environment condition onCondition.calls onCondition.lookup
      have first := plain_renderAll_rename body oldFree newFree fresh.2.1 onBody
      have rest := plain_renderBranches_rename branches oldFree newFree fresh.2.2 onRest
      simp only [Branches.rename, renderBranches, value, plain_bind, plain_ite, first,
        rest]
  | otherwise body => exact plain_renderAll_rename body oldFree newFree fresh corresponds

theorem plain_renderAll_rename
    (nodes : List Node)
    {surroundings other : Surroundings}
    (oldFree : "loop" ≠ old)
    (newFree : "loop" ≠ new)
    (fresh : new ∉ Node.mentionedAll nodes)
    (corresponds :
      Corresponds (renamed old new) (Node.freeNamesAll nodes) surroundings other) :
    plain (renderAll environment nodes surroundings) =
      plain (renderAll environment (Node.renameAll old new nodes) other) := by
  cases nodes with
  | nil => rfl
  | cons node rest =>
      simp only [Node.mentionedAll, List.mem_append, not_or] at fresh
      obtain ⟨onFirst, onRest⟩ := Corresponds.append.1 corresponds
      have first := plain_renderNode_rename node oldFree newFree fresh.1 onFirst
      have others := plain_renderAll_rename rest oldFree newFree fresh.2 onRest
      simp only [Node.renameAll, renderAll, plain_bind, first, others]

end

/-- Wherever they stand, two nodes do the same and emit the same text. -/
def Interchangeable (node other : Node) : Prop :=
  ∀ surroundings,
    plain (renderNode environment node surroundings) =
      plain (renderNode environment other surroundings)

/-- A loop does the same with another variable that its body does not mention. -/
theorem interchangeable_loop
    (iterable : Expr)
    {body : List Node}
    (oldFree : "loop" ≠ old)
    (newFree : "loop" ≠ new)
    (fresh : new ∉ Node.mentionedAll body) :
    Interchangeable environment (.loop old iterable body)
      (.loop new iterable (Node.renameAll old new body)) := by
  intro surroundings
  -- Around the body both loops have the same surroundings: what they bind is not read there.
  have outside :
      Corresponds (renamed old new) (unbound old (Node.freeNamesAll body))
        surroundings.inBlock surroundings.inBlock :=
    (Corresponds.refl _ _).congr fun name inside =>
      (renamed_of_ne (mem_unbound.1 inside).2.1 new).symm
  have apart (name : String) (inside : name ∈ Node.freeNamesAll body) : name ≠ new := by
    rintro rfl
    exact fresh (Node.freeNamesAll_subset body inside)
  have iterated := plain_iterate_congr fun element loop =>
    plain_renderAll_rename environment body oldFree newFree fresh
      (outside.iteration (renamed_eq_iff oldFree newFree)
        (fun name inside => renamed_eq_new (apart name inside) old) element loop)
  simp only [renderNode, plain_bind, plain_record, iterated]

/-- Between the same nodes, interchangeable nodes do the same. -/
theorem plain_renderAll_between
    {node other : Node}
    (before after : List Node)
    (same : Interchangeable environment node other)
    (surroundings : Surroundings) :
    plain (renderAll environment (before ++ node :: after) surroundings) =
      plain (renderAll environment (before ++ other :: after) surroundings) := by
  induction before with
  | nil => simp only [List.nil_append, renderAll, plain_bind, same surroundings]
  | cons first rest inductionHypothesis =>
      simp only [List.cons_append, renderAll, plain_bind, inductionHypothesis]

mutual

/-- In a hole of a template, interchangeable nodes do the same. -/
theorem plain_renderAll_fill
    {node other : Node}
    (hole : Template.Hole)
    (same : Interchangeable environment node other)
    (surroundings : Surroundings) :
    plain (renderAll environment (hole.fill node) surroundings) =
      plain (renderAll environment (hole.fill other) surroundings) := by
  cases hole with
  | between before after =>
      exact plain_renderAll_between environment before after same surroundings
  | inside before block after =>
      exact plain_renderAll_between environment before after
        (plain_renderNode_fill block same) surroundings

/-- In a hole of a block, interchangeable nodes do the same. -/
theorem plain_renderNode_fill
    {node other : Node}
    (hole : Block.Hole)
    (same : Interchangeable environment node other)
    (surroundings : Surroundings) :
    plain (renderNode environment (hole.fill node) surroundings) =
      plain (renderNode environment (hole.fill other) surroundings) := by
  cases hole with
  | conditional condition body branches =>
      simp only [Block.Hole.fill, renderNode, plain_bind, plain_ite,
        plain_renderAll_fill body same]
  | branch condition body branches =>
      simp only [Block.Hole.fill, renderNode, plain_bind, plain_ite,
        plain_renderBranches_fill branches same]
  | loop variableName iterable body =>
      have iterated := plain_iterate_congr fun element loop =>
        plain_renderAll_fill body same
          (surroundings.inBlock.withScope (Render.loopScope variableName element loop))
      simp only [Block.Hole.fill, renderNode, plain_bind, iterated]

/-- In a hole of several branches, interchangeable nodes do the same. -/
theorem plain_renderBranches_fill
    {node other : Node}
    (hole : Branches.Hole)
    (same : Interchangeable environment node other)
    (surroundings : Surroundings) :
    plain (renderBranches environment (hole.fill node) surroundings) =
      plain (renderBranches environment (hole.fill other) surroundings) := by
  cases hole with
  | elif condition body branches =>
      simp only [Branches.Hole.fill, renderBranches, plain_bind, plain_ite,
        plain_renderAll_fill body same]
  | further condition body branches =>
      simp only [Branches.Hole.fill, renderBranches, plain_bind, plain_ite,
        plain_renderBranches_fill branches same]
  | otherwise body => exact plain_renderAll_fill body same surroundings

end

/-- Templates whose runs emit the same text are rendered alike. -/
theorem renderTemplate_congr
    {data : Scope}
    {template other : Template}
    (same :
      plain (renderTemplate environment data template) =
        plain (renderTemplate environment data other))
    (session : Session σ) :
    Render.renderTemplate environment data template session =
      Render.renderTemplate environment data other session := by
  rw [renderTemplate_apply, renderTemplate_apply, ← bounded_plain, same, bounded_plain]

end Unbounded

namespace Render

variable {σ : Type}

/-- Loop variables can be renamed. A template with a loop somewhere in it is rendered as it
is when the variable of the loop becomes a name that the body of the loop does not
mention, in the loop and wherever the body reads it. The outcome is the same, the same
functions of the host run with the same arguments, and the session in the end is the same
with all of its counts. -/
theorem renaming_keeps_renders
    {variableName newName : String}
    {body : List Node}
    (variableFree : variableName ≠ "loop")
    (newFree : newName ≠ "loop")
    (fresh : newName ∉ Node.mentionedAll body)
    (hole : Template.Hole)
    (iterable : Expr)
    (environment : Environment σ)
    (data : Scope)
    (session : Session σ) :
    let template := hole.fill (.loop variableName iterable body)
    let renamed :=
      hole.fill (.loop newName iterable (Node.renameAll variableName newName body))
    renderTemplate environment data renamed session =
        renderTemplate environment data template session ∧
      environment.calls data renamed session.host =
        environment.calls data template session.host := by
  have same {τ : Type} (surrounding : Environment τ) :=
    Unbounded.renderTemplate_congr surrounding
      (Unbounded.plain_renderAll_fill surrounding hole
        (Unbounded.interchangeable_loop surrounding iterable variableFree.symm
          newFree.symm fresh) (.start data))
  intro template renamed
  refine ⟨(same environment session).symm, ?_⟩
  rw [Environment.calls, Environment.calls]
  exact congrArg (fun result => (stateAfter result).host.2)
    (same environment.recording (.start data (session.host, []))).symm

/-- The body of a loop with an inner loop over `x` in it. -/
def shadowingBody (variableName : String) : List Node :=
  [.loop "x" (.reference 0 variableName) [.output (.call 0 "id" [.reference 3 "x"])],
    .conditional (.reference 0 variableName) [.output (.access 0 "loop" "first")] .done]

/-- A conditional behind text, with a hole in its body. -/
def conditionalHole : Template.Hole :=
  .inside [.text "-"] (.conditional (.boolean 0 true) (.between [] []) .done) []

/-- An inner loop over the same variable keeps its variable, but what it goes through is
renamed. -/
theorem renaming_keeps_renders_shadowed :
    let environment : Environment Unit :=
      { limits := .standard, registry := .identity, source := "" }
    let data : Scope := [("xs", .list [.list [.boolean true]])]
    let template (variableName : String) :=
      conditionalHole.fill
        (.loop variableName (.reference 0 "xs") (shadowingBody variableName))
    outcomeOf (renderTemplate environment data (template "x") (.start [] ())) =
        .ok "-truetrue" ∧
      renderTemplate environment data (template "y") (.start [] ()) =
        renderTemplate environment data (template "x") (.start [] ()) := by
  intro environment data template
  have fresh : "y" ∉ Node.mentionedAll (shadowingBody "x") := by decide
  have rename : Node.renameAll "x" "y" (shadowingBody "x") = shadowingBody "y" := rfl
  refine ⟨by decide +kernel, ?_⟩
  simp only [template, ← rename]
  exact
    (renaming_keeps_renders (by decide) (by decide) fresh conditionalHole
      (.reference 0 "xs") environment data (.start [] ())).1

end Render
end Templating
