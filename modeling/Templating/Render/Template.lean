import Templating.Render.Evaluation
import Templating.Template
import Templating.Text.Escape

/-!
# Rendering templates

A node of a template emits pieces of output. A conditional emits the first
branch whose condition holds; a loop emits its body once for each item. Both are
blocks, which the budget counts.
-/

namespace Templating
namespace Render

variable {σ : Type}

/-- What the name `loop` stands for in an iteration. -/
def loopValue (index : Value) (position total : Nat) : Value :=
  .mapping [
    ("index", index),
    ("count", .integer (position + 1)),
    ("first", .boolean (position = 0)),
    ("last", .boolean (position + 1 = total))]

/-- The variables of an iteration. -/
def loopScope (variableName : String) (element loop : Value) : Scope :=
  Entries.put [(variableName, element)] "loop" loop

/-- Run the body of a loop for each item that is left, where some were done. -/
def iterate
    (limits : Limits)
    (variableName : String)
    (total : Nat)
    (body : Render σ Unit)
    (position : Nat) :
    List (Value × Value) → Render σ Unit
  | [] => pure ()
  | (index, element) :: rest => do
      charge (Budget.countIteration limits)
      openScope
        (loopScope variableName element (loopValue index position total))
      try
        body
      finally
        closeScope
      iterate limits variableName total body (position + 1) rest

variable (environment : Environment σ)

mutual

/-- Render a node. -/
def renderNode : Node → Render σ Unit
  | .text content => emit environment.limits content
  | .output expr => do
      let value ← evaluate environment expr
      let text ← ofExcept value.display
      emit environment.limits (Text.escape text)
  | .rawOutput expr => do
      let value ← evaluate environment expr
      let text ← ofExcept value.display
      emit environment.limits text
  | .conditional condition body branches => do
      charge (Budget.enterBlock environment.limits)
      try
        let value ← evaluate environment condition
        if value.truthy then renderAll body else renderBranches branches
      finally
        release Budget.exitBlock
  | .loop variableName iterable body => do
      charge (Budget.enterBlock environment.limits)
      try
        let value ← evaluate environment iterable
        let items := value.iterationItems
        iterate environment.limits variableName items.length (renderAll body) 0
          items
      finally
        release Budget.exitBlock
  | .unknown kind => fail (.evaluation (.unknownNode kind) none none)

/-- Render the first of several branches whose condition holds. -/
def renderBranches : Branches → Render σ Unit
  | .done => pure ()
  | .elif condition body branches => do
      let value ← evaluate environment condition
      if value.truthy then renderAll body else renderBranches branches
  | .otherwise body => renderAll body

/-- Render nodes in order. -/
def renderAll : List Node → Render σ Unit
  | [] => pure ()
  | node :: rest => do
      renderNode node
      renderAll rest

end

/-- Render a template from the start, and give its whole output. -/
def renderTemplate (data : Scope) (template : Template) : Render σ String := do
  modify (Session.restart data)
  renderAll environment template
  return (← get).output

end Render
end Templating
