import Templating.Registry
import Templating.Render.Budget
import Templating.Value.Comparison

/-!
# Sessions

A session is what changes while a template is rendered: the variables in scope,
the budget, the output so far and the state of the host. A step of a render may
fail, and then the session keeps what was changed before the failure.
-/

namespace Templating

/-- The variables of one block. -/
abbrev Scope := Entries Value

/-- What changes while a template is rendered. -/
structure Session (σ : Type) where
  /-- The variables in scope, those of the innermost block first. -/
  scopes : List Scope
  budget : Budget
  /-- The pieces of output, the last one first. -/
  pieces : List String
  /-- The state of the host. -/
  host : σ

/-- What stays the same while a template is rendered. -/
structure Environment (σ : Type) where
  limits : Limits
  registry : Registry σ
  /-- The text that errors of evaluation point into. -/
  source : String

/-- A step of a render. -/
abbrev Render (σ : Type) := EStateM Failure (Session σ)

namespace Session

variable {σ : Type}

/-- A session with the data of a template as its only variables. -/
def start (data : Scope) (host : σ) : Session σ where
  scopes := [data]
  budget := .fresh
  pieces := []
  host := host

/-- Begin again with the data of a template; only the host keeps its state. -/
def restart (data : Scope) (session : Session σ) : Session σ :=
  start data session.host

/-- What a name stands for in the innermost scope that has it. -/
def lookup (scopes : List Scope) (name : String) : Value :=
  (scopes.findSome? fun scope => scope.find? name).getD .null

/-- The output so far. -/
def output (session : Session σ) : String :=
  String.join session.pieces.reverse

end Session

namespace Render

variable {σ : Type}

/-- Fail with an error. -/
def fail {α : Type} (error : Error) : Render σ α := throw (.error error)

/-- Go on with a result, or fail with its error. -/
def ofExcept {α : Type} : Except Error α → Render σ α
  | .ok value => pure value
  | .error error => fail error

/-- Use some of the budget. -/
def charge (spending : EStateM Error Budget Unit) : Render σ Unit :=
  fun session =>
    match spending session.budget with
    | .ok _ budget => .ok () { session with budget }
    | .error error budget => .error (.error error) { session with budget }

/-- Give some of the budget back. -/
def release (giving : Budget → Budget) : Render σ Unit := fun session =>
  .ok () { session with budget := giving session.budget }

/-- Bring variables into scope. -/
def openScope (scope : Scope) : Render σ Unit := fun session =>
  .ok () { session with scopes := scope :: session.scopes }

/-- Leave the innermost scope. -/
def closeScope : Render σ Unit := fun session =>
  .ok () { session with scopes := session.scopes.tail }

/-- What a name stands for. -/
def resolve (name : String) : Render σ Value := fun session =>
  .ok (Session.lookup session.scopes name) session

/-- Add a piece of output. -/
def emit (limits : Limits) (text : String) : Render σ Unit := do
  charge (Budget.addOutput limits text)
  fun session => .ok () { session with pieces := text :: session.pieces }

/-- Call a function of the host. A failure that is no error of the template
language is reported as an error of that function. -/
def callHost
    (environment : Environment σ)
    (name : String)
    (arguments : List Value)
    (position : Int) :
    Render σ Value := fun session =>
  let context : CallContext :=
    { limits := environment.limits, position, source := environment.source }
  match environment.registry.call name arguments context session.host with
  | .ok value host => .ok value { session with host }
  | .error (.error error) host => .error (.error error) { session with host }
  | .error (.exception text) host =>
      .error
        (.error
          { cause := .function name text
            position := some position
            source := some environment.source })
        { session with host }

end Render
end Templating
