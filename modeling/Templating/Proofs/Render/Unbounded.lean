import Templating.Render.Template

/-!
# Renders without a budget

The meaning of a template when nothing is limited. The variables in scope and
the numbers of blocks and calls around a part of a template are handed down to
it and never taken back, so there is nothing to count and nothing to release.
What happens on the way is recorded in order: blocks, iterations, calls, the
functions of the host that run, and the pieces of output. A run that fails ends
with its failure.
-/

namespace Templating
namespace Unbounded

/-- A piece of output, and what it was made from. -/
inductive Piece
  /-- Literal text. -/
  | literal (content : String)
  /-- The text that the value of an output tag displays. -/
  | escaped (expr : Expr) (value : Value) (displayed : String)
  /-- The text that the value of a raw output tag displays. -/
  | raw (expr : Expr) (value : Value) (displayed : String)

/-- What a piece adds to the output. -/
def Piece.text : Piece → String
  | .literal content => content
  | .escaped _ _ displayed => Text.escape displayed
  | .raw _ _ displayed => displayed

/-- Something that happens in a run. -/
inductive Occurrence (σ : Type)
  /-- A block begins, the outermost one at depth one. -/
  | block (depth : Int)
  /-- An iteration of a loop begins. -/
  | iteration
  /-- A call begins, the outermost one at depth one. -/
  | call (depth : Int)
  /-- A function of the host runs and leaves the host in a new state. -/
  | hostCall
      (name : String)
      (arguments : List Value)
      (context : CallContext)
      (host : σ)
  /-- A piece of output is emitted. -/
  | emission (piece : Piece)

/-- What happens in a run, in order, and how the run ends. -/
structure Course (σ α : Type) where
  occurrences : List (Occurrence σ)
  outcome : Except Failure α

variable {σ α β : Type}

/-- The state of the host after a number of occurrences. -/
def hostAfter (host : σ) : List (Occurrence σ) → σ
  | [] => host
  | .hostCall _ _ _ next :: rest => hostAfter next rest
  | _ :: rest => hostAfter host rest

/-- The pieces of output among a number of occurrences. -/
def pieces (occurrences : List (Occurrence σ)) : List Piece :=
  occurrences.filterMap fun
    | .emission piece => some piece
    | _ => none

/-- The output of a number of occurrences. -/
def output (occurrences : List (Occurrence σ)) : String :=
  String.join ((pieces occurrences).map Piece.text)

/-- An iteration of a loop begins. -/
def Occurrence.isIteration : Occurrence σ → Bool
  | .iteration => true
  | _ => false

/-- The number of iterations among a number of occurrences. -/
def iterations (occurrences : List (Occurrence σ)) : Nat :=
  occurrences.countP Occurrence.isIteration

end Unbounded

/-- A computation that only the state of the host influences. -/
structure Unbounded (σ α : Type) where
  run : σ → Unbounded.Course σ α

namespace Unbounded

variable {σ α β : Type}

instance : Monad (Unbounded σ) where
  pure value := ⟨fun _ => { occurrences := [], outcome := .ok value }⟩
  bind first next := ⟨fun host =>
    let course := first.run host
    match course.outcome with
    | .error failure =>
        { occurrences := course.occurrences, outcome := .error failure }
    | .ok value =>
      let others := (next value).run (hostAfter host course.occurrences)
      { occurrences := course.occurrences ++ others.occurrences
        outcome := others.outcome }⟩

/-- Record an occurrence. -/
def record (occurrence : Occurrence σ) : Unbounded σ Unit :=
  ⟨fun _ => { occurrences := [occurrence], outcome := .ok () }⟩

/-- End the run. -/
def fail (failure : Failure) : Unbounded σ α :=
  ⟨fun _ => { occurrences := [], outcome := .error failure }⟩

/-- Go on with a result, or end the run with its error. -/
def ofExcept : Except Error α → Unbounded σ α
  | .ok value => pure value
  | .error error => fail (.error error)

/-- Where a part of a template stands: the variables in scope, those of the
innermost block first, and the numbers of blocks and calls around the part. -/
structure Surroundings where
  scopes : List Scope
  blocks : Int
  calls : Int

namespace Surroundings

/-- The surroundings of a whole template with its data. -/
def start (data : Scope) : Surroundings where
  scopes := [data]
  blocks := 0
  calls := 0

variable (surroundings : Surroundings)

/-- What a name stands for. -/
def lookup (name : String) : Value := Session.lookup surroundings.scopes name

/-- One block further in. -/
def inBlock : Surroundings :=
  { surroundings with blocks := surroundings.blocks + 1 }

/-- One call further in. -/
def inCall : Surroundings :=
  { surroundings with calls := surroundings.calls + 1 }

/-- Where further variables are in scope. -/
def withScope (scope : Scope) : Surroundings :=
  { surroundings with scopes := scope :: surroundings.scopes }

end Surroundings

variable (environment : Environment σ)

/-- How the failure of a function of the host is reported. -/
def reported (name : String) (position : Int) : HostFailure → Failure
  | .error error => .error error
  | .exception text =>
      .error
        { cause := .function name text
          position := some position
          source := some environment.source }

/-- Run a function of the host. -/
def callHost (name : String) (arguments : List Value) (position : Int) :
    Unbounded σ Value :=
  let context : CallContext :=
    { limits := environment.limits, position, source := environment.source }
  match environment.registry.find? name with
  | none =>
      fail
        (.error
          (.evaluation (.unknownFunction name) (some position)
            (some environment.source)))
  | some function => ⟨fun host =>
      match function arguments context host with
      | .ok value next =>
          { occurrences := [.hostCall name arguments context next]
            outcome := .ok value }
      | .error failure next =>
          { occurrences := [.hostCall name arguments context next]
            outcome := .error (reported environment name position failure) }⟩

mutual

/-- The value of an expression. -/
def evaluate (surroundings : Surroundings) : Expr → Unbounded σ Value
  | .string _ text => pure (.string text)
  | .number _ value => pure (.double value)
  | .boolean _ value => pure (.boolean value)
  | .null _ => pure .null
  | .reference _ name => pure (surroundings.lookup name)
  | .access _ object property =>
      pure ((surroundings.lookup object).property property)
  | .call position function arguments => do
      record (.call (surroundings.calls + 1))
      let values ← evaluateAll surroundings.inCall arguments
      callHost environment function values position
  | .unary _ _ operand => do
      let value ← evaluate surroundings operand
      return .boolean !value.truthy
  | .binary _ .conjunction left right => do
      let first ← evaluate surroundings left
      if first.truthy then
        let second ← evaluate surroundings right
        return .boolean second.truthy
      else
        return .boolean false
  | .binary _ .disjunction left right => do
      let first ← evaluate surroundings left
      if first.truthy then
        return .boolean true
      else
        let second ← evaluate surroundings right
        return .boolean second.truthy
  | .binary _ (.relation kind) left right => do
      let first ← evaluate surroundings left
      let second ← evaluate surroundings right
      let holds ← ofExcept (kind.holds first second)
      return .boolean holds
  | .binary _ (.other symbol) left right => do
      let first ← evaluate surroundings left
      let second ← evaluate surroundings right
      let _ ← ofExcept (Operands.ofValues first second)
      fail (.unknownOperator symbol)
  | .unknown kind =>
      fail
        (.error
          (.evaluation (.unknownExpression kind) none (some environment.source)))

/-- The values of several expressions, in order. -/
def evaluateAll (surroundings : Surroundings) :
    List Expr → Unbounded σ (List Value)
  | [] => pure []
  | expr :: rest => do
      let value ← evaluate surroundings expr
      let values ← evaluateAll surroundings rest
      return value :: values

end

/-- Run the body of a loop for each item that is left, where some were done. -/
def iterate
    (surroundings : Surroundings)
    (variableName : String)
    (total : Nat)
    (body : Surroundings → Unbounded σ Unit)
    (position : Nat) :
    List (Value × Value) → Unbounded σ Unit
  | [] => pure ()
  | (index, element) :: rest => do
      record .iteration
      body
        (surroundings.withScope
          (Render.loopScope variableName element
            (Render.loopValue index position total)))
      iterate surroundings variableName total body (position + 1) rest

mutual

/-- Run a node. -/
def renderNode : Node → Surroundings → Unbounded σ Unit
  | .text content, _ => record (.emission (.literal content))
  | .output expr, surroundings => do
      let value ← evaluate environment surroundings expr
      let displayed ← ofExcept value.display
      record (.emission (.escaped expr value displayed))
  | .rawOutput expr, surroundings => do
      let value ← evaluate environment surroundings expr
      let displayed ← ofExcept value.display
      record (.emission (.raw expr value displayed))
  | .conditional condition body branches, surroundings => do
      record (.block (surroundings.blocks + 1))
      let value ← evaluate environment surroundings.inBlock condition
      if value.truthy then renderAll body surroundings.inBlock
      else renderBranches branches surroundings.inBlock
  | .loop variableName iterable body, surroundings => do
      record (.block (surroundings.blocks + 1))
      let value ← evaluate environment surroundings.inBlock iterable
      let items := value.iterationItems
      iterate surroundings.inBlock variableName items.length (renderAll body) 0
        items
  | .unknown kind, _ =>
      fail (.error (.evaluation (.unknownNode kind) none none))

/-- Run the first of several branches whose condition holds. -/
def renderBranches : Branches → Surroundings → Unbounded σ Unit
  | .done, _ => pure ()
  | .elif condition body branches, surroundings => do
      let value ← evaluate environment surroundings condition
      if value.truthy then renderAll body surroundings
      else renderBranches branches surroundings
  | .otherwise body, surroundings => renderAll body surroundings

/-- Run nodes in order. -/
def renderAll : List Node → Surroundings → Unbounded σ Unit
  | [], _ => pure ()
  | node :: rest, surroundings => do
      renderNode node surroundings
      renderAll rest surroundings

end

/-- Run a template with its data. -/
def renderTemplate (data : Scope) (template : Template) : Unbounded σ Unit :=
  renderAll environment template (.start data)

/-! ## Computations in a row -/

/-- What a sequence of computations does. -/
theorem run_bind
    (first : Unbounded σ α)
    (next : α → Unbounded σ β)
    (host : σ) :
    (first >>= next).run host =
      match (first.run host).outcome with
      | .error failure =>
          { occurrences := (first.run host).occurrences, outcome := .error failure }
      | .ok value =>
        let others :=
          (next value).run (hostAfter host (first.run host).occurrences)
        { occurrences := (first.run host).occurrences ++ others.occurrences
          outcome := others.outcome } := rfl

theorem hostAfter_append (host : σ) (first second : List (Occurrence σ)) :
    hostAfter host (first ++ second) = hostAfter (hostAfter host first) second := by
  induction first generalizing host with
  | nil => rfl
  | cons occurrence rest inductionHypothesis =>
      cases occurrence <;> exact inductionHypothesis _

/-- Computations in a row may be grouped in any way. -/
instance : LawfulMonad (Unbounded σ) := by
  refine LawfulMonad.mk' (Unbounded σ) ?_ (fun _ _ => rfl) ?_
  · intro α computation
    refine congrArg Unbounded.mk (funext fun host => ?_)
    change (computation >>= fun value => pure (id value)).run host = _
    rw [run_bind]
    cases computation.run host with
    | mk occurrences outcome => cases outcome <;> simp [pure]
  · intro α β γ first second third
    refine congrArg Unbounded.mk (funext fun host => ?_)
    change (first >>= second >>= third).run host = (first >>= _).run host
    rw [run_bind, run_bind, run_bind]
    cases (first.run host).outcome with
    | error failure => rfl
    | ok value =>
        dsimp only
        rw [run_bind]
        cases ((second value).run _).outcome with
        | error failure => rfl
        | ok value => simp only [hostAfter_append, List.append_assoc]

/-! ## What names stand for -/

namespace Surroundings

/-- In a whole template only the data gives names a meaning. -/
theorem lookup_start (data : Scope) (name : String) :
    (start data).lookup name = (data.find? name).getD .null := by
  rw [lookup, Session.lookup, start, List.findSome?_singleton]

/-- The innermost scope that has a name gives it its meaning. -/
theorem lookup_withScope (surroundings : Surroundings) (scope : Scope) (name : String) :
    (surroundings.withScope scope).lookup name =
      (scope.find? name).getD (surroundings.lookup name) := by
  rw [lookup, Session.lookup, withScope, List.findSome?_cons]
  cases scope.find? name <;> rfl

/-- What a name stands for in an iteration of a loop. -/
theorem lookup_loopScope
    (surroundings : Surroundings)
    (variableName name : String)
    (element loop : Value) :
    (surroundings.withScope (Render.loopScope variableName element loop)).lookup name =
      if name = "loop" then loop
      else if name = variableName then element
      else surroundings.lookup name := by
  simp only [lookup_withScope, Render.loopScope, Entries.find?_put, Entries.find?,
    @eq_comm _ name]
  by_cases isLoop : "loop" = name
  · simp [isLoop]
  · by_cases isVariable : variableName = name
    · simp [isLoop, isVariable]
    · simp [isLoop, isVariable]

end Surroundings

/-! ## What loops run over -/

/-- The items of a list are taken in order, each with its position as index. -/
theorem getElem?_iterationItems_list (items : List Value) (position : Nat) :
    (Value.list items).iterationItems[position]? =
        items[position]?.map (fun item => (.integer position, item)) ∧
      (Value.tuple items).iterationItems[position]? =
        items[position]?.map (fun item => (.integer position, item)) := by
  simp [Value.iterationItems, List.getElem?_zipIdx, Function.comp_def]

/-- The entries of a mapping are taken in order, each with its name as index. -/
theorem getElem?_iterationItems_mapping (entries : Entries Value) (position : Nat) :
    (Value.mapping entries).iterationItems[position]? =
      entries[position]?.map fun entry => (.string entry.1, entry.2) := by
  simp [Value.iterationItems]

/-- The iterations of a loop are those of its items, in order. In each of them the
variable is the item, and `loop` holds the index, the number of iterations up to this one,
and whether it is the first one or the last one. -/
theorem iterate_eq_forM
    (surroundings : Surroundings)
    (variableName : String)
    (body : Surroundings → Unbounded σ Unit)
    (items : List (Value × Value)) :
    let loop (index : Value) (position : Nat) : Value :=
      .mapping [
        ("index", index),
        ("count", .integer (position + 1)),
        ("first", .boolean (position = 0)),
        ("last", .boolean (position + 1 = items.length))]
    let iteration (item : (Value × Value) × Nat) : Unbounded σ Unit := do
      let ((index, element), position) := item
      record .iteration
      body
        (surroundings.withScope
          (Entries.put [(variableName, element)] "loop" (loop index position)))
    iterate surroundings variableName items.length body 0 items =
      items.zipIdx.forM iteration := by
  intro loop iteration
  have behind (position : Nat) (rest : List (Value × Value)) :
      iterate surroundings variableName items.length body position rest =
        (rest.zipIdx position).forM iteration := by
    induction rest generalizing position with
    | nil => rfl
    | cons item others inductionHypothesis =>
        obtain ⟨index, element⟩ := item
        rw [iterate, inductionHypothesis (position + 1), ← bind_assoc]
        rfl
  exact behind 0 items

end Unbounded
end Templating
