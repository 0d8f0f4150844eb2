import Templating.Render.Template

/-!
# Watched renders

A render that is watched looks at the budget after every step, and tells a failure of
the render itself from one of a function of the host. It goes through a template as the
render does, each step of it being a step of the render with a look at what came of it.
-/

namespace Templating

/-- Where a failure of a render comes from. -/
inductive Origin
  | render
  | host
  deriving DecidableEq

/-- A failure with its origin. -/
structure Mishap where
  origin : Origin
  failure : Failure

/-- A session with the budgets that were seen in it, the last one first. -/
structure Watch (σ : Type) where
  session : Session σ
  seen : List Budget

/-- A step of a watched render. -/
abbrev Watched (σ : Type) := EStateM Mishap (Watch σ)

namespace Watched

variable {σ α : Type}

/-- Take a step of a render and look at the budget after it. -/
def look (origin : Origin) (step : Render σ α) : Watched σ α := fun watch =>
  match step watch.session with
  | .ok value session => .ok value ⟨session, session.budget :: watch.seen⟩
  | .error failure session =>
      .error ⟨origin, failure⟩ ⟨session, session.budget :: watch.seen⟩

variable (environment : Environment σ)

/-- Call a function of the host. A name without a function fails in the render. -/
def callHost (name : String) (arguments : List Value) (position : Int) :
    Watched σ Value :=
  look (if environment.registry.has name then .host else .render)
    (Render.callHost environment name arguments position)

mutual

/-- The value of an expression. -/
def evaluate : Expr → Watched σ Value
  | .string _ text => pure (.string text)
  | .number _ value => pure (.double value)
  | .boolean _ value => pure (.boolean value)
  | .null _ => pure .null
  | .reference _ name => look .render (Render.resolve name)
  | .access _ object property => do
      let value ← look .render (Render.resolve object)
      return value.property property
  | .call position function arguments => do
      look .render (Render.charge (Budget.enterCall environment.limits))
      try
        let values ← evaluateAll arguments
        callHost environment function values position
      finally
        look .render (Render.release Budget.exitCall)
  | .unary _ _ operand => do
      let value ← evaluate operand
      return .boolean !value.truthy
  | .binary _ .conjunction left right => do
      let first ← evaluate left
      if first.truthy then
        let second ← evaluate right
        return .boolean second.truthy
      else
        return .boolean false
  | .binary _ .disjunction left right => do
      let first ← evaluate left
      if first.truthy then
        return .boolean true
      else
        let second ← evaluate right
        return .boolean second.truthy
  | .binary _ (.relation kind) left right => do
      let first ← evaluate left
      let second ← evaluate right
      let holds ← look .render (Render.ofExcept (kind.holds first second))
      return .boolean holds
  | .binary _ (.other symbol) left right => do
      let first ← evaluate left
      let second ← evaluate right
      look .render (Render.applyUnknown symbol first second)
  | .unknown kind =>
      look .render
        (Render.fail
          (.evaluation (.unknownExpression kind) none (some environment.source)))

/-- The values of several expressions, in order. -/
def evaluateAll : List Expr → Watched σ (List Value)
  | [] => pure []
  | expr :: rest => do
      let value ← evaluate expr
      let values ← evaluateAll rest
      return value :: values

end

/-- Run the body of a loop for each item that is left, where some were done. -/
def iterate
    (limits : Limits)
    (variableName : String)
    (total : Nat)
    (body : Watched σ Unit)
    (position : Nat) :
    List (Value × Value) → Watched σ Unit
  | [] => pure ()
  | (index, element) :: rest => do
      look .render (Render.charge (Budget.countIteration limits))
      look .render
        (Render.openScope
          (Render.loopScope variableName element
            (Render.loopValue index position total)))
      try
        body
      finally
        look .render Render.closeScope
      iterate limits variableName total body (position + 1) rest

mutual

/-- Render a node. -/
def renderNode : Node → Watched σ Unit
  | .text content => look .render (Render.emit environment.limits content)
  | .output expr => do
      let value ← evaluate environment expr
      let text ← look .render (Render.ofExcept value.display)
      look .render (Render.emit environment.limits (Text.escape text))
  | .rawOutput expr => do
      let value ← evaluate environment expr
      let text ← look .render (Render.ofExcept value.display)
      look .render (Render.emit environment.limits text)
  | .conditional condition body branches => do
      look .render (Render.charge (Budget.enterBlock environment.limits))
      try
        let value ← evaluate environment condition
        if value.truthy then renderAll body else renderBranches branches
      finally
        look .render (Render.release Budget.exitBlock)
  | .loop variableName iterable body => do
      look .render (Render.charge (Budget.enterBlock environment.limits))
      try
        let value ← evaluate environment iterable
        let items := value.iterationItems
        iterate environment.limits variableName items.length (renderAll body) 0
          items
      finally
        look .render (Render.release Budget.exitBlock)
  | .unknown kind =>
      look .render (Render.fail (.evaluation (.unknownNode kind) none none))

/-- Render the first of several branches whose condition holds. -/
def renderBranches : Branches → Watched σ Unit
  | .done => pure ()
  | .elif condition body branches => do
      let value ← evaluate environment condition
      if value.truthy then renderAll body else renderBranches branches
  | .otherwise body => renderAll body

/-- Render nodes in order. -/
def renderAll : List Node → Watched σ Unit
  | [] => pure ()
  | node :: rest => do
      renderNode node
      renderAll rest

end

/-- Render a template from the start, and give its whole output. -/
def renderTemplate (data : Scope) (template : Template) : Watched σ String := do
  look .render (modify (Session.restart data))
  renderAll environment template
  return (← get).session.output

end Watched
end Templating
