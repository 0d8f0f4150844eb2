import Templating.Limits
import Templating.Error

/-!
# What a render uses

A render counts what it uses and compares the counts with the limits. Two counts
only grow: the iterations of all loops and the bytes of output. Two rise and
fall: the blocks and the calls in progress. Each operation counts first and then
compares, so the count stays changed when the limit is exceeded.
-/

namespace Templating

/-- What a render has used so far. -/
structure Budget where
  loopIterations : Int
  nestingDepth : Int
  callDepth : Int
  outputSize : Int
  deriving DecidableEq

namespace Budget

/-- Nothing is used. -/
def fresh : Budget where
  loopIterations := 0
  nestingDepth := 0
  callDepth := 0
  outputSize := 0

instance : Inhabited Budget := ⟨fresh⟩

/-- Change the counts, and fail when the new count of a resource is above its
bound. -/
def spend
    (resource : Resource)
    (bound : Nat)
    (count : Budget → Int)
    (change : Budget → Budget) :
    EStateM Error Budget Unit := fun budget =>
  let next := change budget
  if count next ≤ bound then .ok () next
  else .error (.exhausted resource bound (count next)) next

variable (limits : Limits)

/-- Begin a block. -/
def enterBlock : EStateM Error Budget Unit :=
  spend .nestingDepth limits.nestingDepth nestingDepth fun budget =>
    { budget with nestingDepth := budget.nestingDepth + 1 }

/-- End a block. -/
def exitBlock (budget : Budget) : Budget :=
  { budget with nestingDepth := budget.nestingDepth - 1 }

/-- Begin an iteration of a loop. -/
def countIteration : EStateM Error Budget Unit :=
  spend .loopIterations limits.loopIterations loopIterations fun budget =>
    { budget with loopIterations := budget.loopIterations + 1 }

/-- Begin a call. -/
def enterCall : EStateM Error Budget Unit :=
  spend .callDepth limits.callDepth callDepth fun budget =>
    { budget with callDepth := budget.callDepth + 1 }

/-- End a call. -/
def exitCall (budget : Budget) : Budget :=
  { budget with callDepth := budget.callDepth - 1 }

/-- Output a number of bytes. -/
def addBytes (size : Nat) : EStateM Error Budget Unit :=
  spend .outputSize limits.outputSize outputSize fun budget =>
    { budget with outputSize := budget.outputSize + size }

/-- Output a text of characters, all of which have an encoding. -/
def addOutput (text : String) : EStateM Error Budget Unit :=
  addBytes limits text.utf8ByteSize

end Budget
end Templating
