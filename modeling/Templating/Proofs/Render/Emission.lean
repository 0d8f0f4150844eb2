import Templating.Proofs.Render.Invariant

/-!
# Where the output of a run comes from

Evaluating an expression emits nothing. What the run of a template emits are the
texts of its text nodes and what the values of the expressions in its output tags
display, and nothing else.
-/

namespace Templating

mutual

/-- The nodes that emit something, in the order of a template. -/
def Node.leaves : Node → List Node
  | .conditional _ body branches => Node.leavesAll body ++ branches.leaves
  | .loop _ _ body => Node.leavesAll body
  | node => [node]

/-- The nodes in branches that emit something. -/
def Branches.leaves : Branches → List Node
  | .done => []
  | .elif _ body branches => Node.leavesAll body ++ branches.leaves
  | .otherwise body => Node.leavesAll body

/-- The nodes in several nodes that emit something. -/
def Node.leavesAll : List Node → List Node
  | [] => []
  | node :: rest => node.leaves ++ Node.leavesAll rest

end

namespace Unbounded

variable {σ α β : Type}

/-- A piece is what one of several nodes emits, for a value that its expression
has somewhere. -/
inductive Piece.EmittedBy (environment : Environment σ) (leaves : List Node) :
    Piece → Prop
  | literal {content : String} (leaf : .text content ∈ leaves) :
      EmittedBy environment leaves (.literal content)
  | escaped
      {expr : Expr}
      {value : Value}
      {displayed : String}
      {surroundings : Surroundings}
      {host : σ}
      (leaf : .output expr ∈ leaves)
      (evaluates :
        ((evaluate environment surroundings expr).run host).outcome = .ok value)
      (displays : value.display = .ok displayed) :
      EmittedBy environment leaves (.escaped expr value displayed)
  | raw
      {expr : Expr}
      {value : Value}
      {displayed : String}
      {surroundings : Surroundings}
      {host : σ}
      (leaf : .rawOutput expr ∈ leaves)
      (evaluates :
        ((evaluate environment surroundings expr).run host).outcome = .ok value)
      (displays : value.display = .ok displayed) :
      EmittedBy environment leaves (.raw expr value displayed)

theorem Piece.EmittedBy.mono
    {environment : Environment σ}
    {leaves others : List Node}
    {piece : Piece}
    (among : leaves ⊆ others)
    (emitted : piece.EmittedBy environment leaves) :
    piece.EmittedBy environment others := by
  cases emitted with
  | literal leaf => exact .literal (among leaf)
  | escaped leaf evaluates displays => exact .escaped (among leaf) evaluates displays
  | raw leaf evaluates displays => exact .raw (among leaf) evaluates displays

/-- Every piece that a computation emits is of a kind. -/
def Emits (kind : Piece → Prop) (computation : Unbounded σ α) : Prop :=
  ∀ host, ∀ piece ∈ pieces (computation.run host).occurrences, kind piece

namespace Emits

variable {kind other : Piece → Prop} {computation : Unbounded σ α}

theorem mono
    (weaker : ∀ piece, kind piece → other piece)
    (emits : Emits kind computation) :
    Emits other computation :=
  fun host piece emitted => weaker piece (emits host piece emitted)

theorem pure (value : α) : Emits (σ := σ) kind (Pure.pure value) := by
  intro host piece emitted
  cases emitted

theorem fail (failure : Failure) :
    Emits kind (fail failure : Unbounded σ α) := by
  intro host piece emitted
  cases emitted

theorem ofExcept (result : Except Error α) :
    Emits (σ := σ) kind (ofExcept result) := by
  cases result with
  | ok value => exact pure value
  | error error => exact fail _

/-- What goes on with a value may know that the first computation has given it. -/
theorem bind_of_run
    {continuation : α → Unbounded σ β}
    (emits : Emits kind computation)
    (next : ∀ host value, (computation.run host).outcome = .ok value →
      Emits kind (continuation value)) :
    Emits kind (computation >>= continuation) := by
  intro host piece emitted
  simp only [bind] at emitted
  cases ended : (computation.run host).outcome with
  | error failure =>
      rw [ended] at emitted
      exact emits host piece emitted
  | ok value =>
      rw [ended] at emitted
      simp only [pieces, List.filterMap_append, List.mem_append] at emitted
      rcases emitted with before | after
      · exact emits host piece before
      · exact next host value ended _ piece after

theorem bind
    {continuation : α → Unbounded σ β}
    (emits : Emits kind computation)
    (next : ∀ value, Emits kind (continuation value)) :
    Emits kind (computation >>= continuation) :=
  bind_of_run emits fun _ value _ => next value

theorem record_emission {piece : Piece} (isKind : kind piece) :
    Emits (σ := σ) kind (record (.emission piece)) := by
  intro host emitted inside
  cases List.mem_singleton.1 inside
  exact isKind

theorem record_block (depth : Int) :
    Emits (σ := σ) kind (record (.block depth)) := by
  intro host piece emitted
  cases emitted

theorem record_call (depth : Int) :
    Emits (σ := σ) kind (record (.call depth)) := by
  intro host piece emitted
  cases emitted

theorem record_iteration : Emits (σ := σ) kind (record .iteration) := by
  intro host piece emitted
  cases emitted

theorem ite
    {condition : Bool}
    {first second : Unbounded σ α}
    (whenTrue : Emits kind first)
    (whenFalse : Emits kind second) :
    Emits kind (if condition then first else second) := by
  cases condition with
  | true => exact whenTrue
  | false => exact whenFalse

theorem callHost
    (environment : Environment σ)
    (name : String)
    (arguments : List Value)
    (position : Int) :
    Emits kind (callHost environment name arguments position) := by
  intro host piece emitted
  unfold Unbounded.callHost at emitted
  split at emitted
  · cases emitted
  · dsimp only at emitted
    split at emitted <;> cases emitted

end Emits

variable (environment : Environment σ)

/-- Evaluating emits nothing. -/
def emitsNothing : EvaluationInvariant environment where
  Holds computation := Emits (fun _ => False) computation
  pure := .pure
  fail := .fail
  bind := .bind
  call := .record_call
  callHost := .callHost environment

theorem evaluate_emits (kind : Piece → Prop) (expr : Expr)
    (surroundings : Surroundings) :
    Emits kind (evaluate environment surroundings expr) :=
  Emits.mono (fun _ nothing => nothing.elim)
    ((emitsNothing environment).evaluate expr surroundings)

theorem iterate_emits
    {kind : Piece → Prop}
    {body : Surroundings → Unbounded σ Unit}
    (bodyEmits : ∀ surroundings, Emits kind (body surroundings))
    (surroundings : Surroundings)
    (variableName : String)
    (total position : Nat)
    (items : List (Value × Value)) :
    Emits kind (iterate surroundings variableName total body position items) := by
  induction items generalizing position with
  | nil => exact .pure _
  | cons item rest inductionHypothesis =>
      exact .bind .record_iteration fun _ =>
        .bind (bodyEmits _) fun _ => inductionHypothesis _

theorem eq_ok_of_ofExcept
    {result : Except Error α}
    {host : σ}
    {value : α}
    (ended : ((ofExcept result : Unbounded σ α).run host).outcome = .ok value) :
    result = .ok value := by
  cases result with
  | error error => cases ended
  | ok other =>
      cases ended
      rfl

mutual

/-- A node emits what its leaves emit. -/
theorem renderNode_emits (node : Node) (surroundings : Surroundings) :
    Emits (Piece.EmittedBy environment node.leaves)
      (renderNode environment node surroundings) := by
  cases node with
  | text content => exact .record_emission (.literal (by simp [Node.leaves]))
  | output expr =>
      refine .bind_of_run (evaluate_emits environment _ expr surroundings) ?_
      intro host value evaluates
      refine .bind_of_run (.ofExcept _) ?_
      intro _ displayed ended
      have displays := eq_ok_of_ofExcept ended
      exact .record_emission
        (.escaped (by simp [Node.leaves]) evaluates displays)
  | rawOutput expr =>
      refine .bind_of_run (evaluate_emits environment _ expr surroundings) ?_
      intro host value evaluates
      refine .bind_of_run (.ofExcept _) ?_
      intro _ displayed ended
      have displays := eq_ok_of_ofExcept ended
      exact .record_emission (.raw (by simp [Node.leaves]) evaluates displays)
  | conditional condition body branches =>
      refine .bind (.record_block _) fun _ => ?_
      refine .bind (evaluate_emits environment _ condition _) fun value => ?_
      refine .ite ?_ ?_
      · refine (renderAll_emits body _).mono fun piece => ?_
        exact Piece.EmittedBy.mono (by simp [Node.leaves])
      · refine (renderBranches_emits branches _).mono fun piece => ?_
        exact Piece.EmittedBy.mono (by simp [Node.leaves])
  | loop variableName iterable body =>
      refine .bind (.record_block _) fun _ => ?_
      refine .bind (evaluate_emits environment _ iterable _) fun value => ?_
      exact iterate_emits (renderAll_emits body) _ _ _ _ _
  | unknown kind => exact .fail _

/-- Branches emit what their leaves emit. -/
theorem renderBranches_emits (branches : Branches) (surroundings : Surroundings) :
    Emits (Piece.EmittedBy environment branches.leaves)
      (renderBranches environment branches surroundings) := by
  cases branches with
  | done => exact .pure _
  | elif condition body branches =>
      refine .bind (evaluate_emits environment _ condition _) fun value => ?_
      refine .ite ?_ ?_
      · refine (renderAll_emits body _).mono fun piece => ?_
        exact Piece.EmittedBy.mono (by simp [Branches.leaves])
      · refine (renderBranches_emits branches _).mono fun piece => ?_
        exact Piece.EmittedBy.mono (by simp [Branches.leaves])
  | otherwise body => exact renderAll_emits body surroundings

/-- Several nodes emit what their leaves emit. -/
theorem renderAll_emits (nodes : List Node) (surroundings : Surroundings) :
    Emits (Piece.EmittedBy environment (Node.leavesAll nodes))
      (renderAll environment nodes surroundings) := by
  cases nodes with
  | nil => exact .pure _
  | cons node rest =>
      refine .bind ?_ fun _ => ?_
      · refine (renderNode_emits node surroundings).mono fun piece => ?_
        exact Piece.EmittedBy.mono (by simp [Node.leavesAll])
      · refine (renderAll_emits rest surroundings).mono fun piece => ?_
        exact Piece.EmittedBy.mono (by simp [Node.leavesAll])

end

end Unbounded
end Templating
