import Templating.Expr.Parser.Levels
import Templating.Segment.Basic
import Templating.Tag
import Templating.Template

/-!
# Assembling a template from its segments

The segments of a template are put together one by one. An assembly holds the
blocks that are open, the innermost first, and the nodes found so far in each.
A step adds one segment: a node for text and output tags, a new open block, the
next branch of the innermost block, or the end of that block.
-/

namespace Templating

/-- A branch with its condition. -/
abbrev Branch := Expr × List Node

/-- The opening of a block that is not closed yet. For a conditional it holds
the branches that are complete, the last one first. -/
inductive OpenBlock
  | loop (variableName : String) (iterable : Expr)
  /-- The branch with this condition is being read. -/
  | branch (condition : Expr) (earlier : List Branch)
  /-- The branch without a condition is being read. -/
  | otherwise (last : Branch) (earlier : List Branch)

/-- The conditional whose branches are a last one, the ones before it, of which
the nearest comes first, and the ones after it. -/
def Node.ofBranches (last : Branch) (earlier : List Branch) (after : Branches) :
    Node :=
  match earlier with
  | [] => .conditional last.1 last.2 after
  | previous :: others =>
      Node.ofBranches previous others (.elif last.1 last.2 after)

namespace OpenBlock

/-- The tag that closes a block. -/
def closing : OpenBlock → Closing
  | .loop _ _ => .endEach
  | .branch _ _ => .endIf
  | .otherwise _ _ => .endIf

/-- The spelling of the tag that closes a block. -/
def closingKeyword : OpenBlock → String
  | .loop _ _ => "endeach"
  | .branch _ _ => "endif"
  | .otherwise _ _ => "endif"

/-- The node of a block whose last body is complete. -/
def close (body : List Node) : OpenBlock → Node
  | .loop variableName iterable => .loop variableName iterable body
  | .branch condition earlier => Node.ofBranches (condition, body) earlier .done
  | .otherwise last earlier => Node.ofBranches last earlier (.otherwise body)

end OpenBlock

/-- An open block. -/
structure Frame where
  block : OpenBlock
  /-- The offset of the tag that opened the block. -/
  position : Int
  /-- The nodes in front of the block, the nearest first. -/
  before : List Node

/-- What was put together so far. -/
structure Assembly where
  /-- The nodes of the innermost body, the last one first. -/
  nodes : List Node
  /-- The open blocks, the innermost first. -/
  frames : List Frame

/-- What assembling a template depends on besides its segments. -/
structure AssemblyContext where
  /-- The text that the offsets of segments point into. -/
  source : Option String
  /-- The functions that may be called. -/
  known : String → Bool
  limits : Limits

/-- The error of a step, whether the segment was read before it, and how many
blocks were entered and not left. -/
structure Refusal where
  error : Error
  consumed : Bool
  depth : Nat

namespace Assembly

/-- Nothing was put together so far. -/
def empty : Assembly where
  nodes := []
  frames := []

/-- Add a node to the innermost body. -/
def push (assembly : Assembly) (node : Node) : Assembly :=
  { assembly with nodes := node :: assembly.nodes }

/-- Open a block. -/
def openBlock (assembly : Assembly) (block : OpenBlock) (position : Int) :
    Assembly where
  nodes := []
  frames := { block, position, before := assembly.nodes } :: assembly.frames

variable (context : AssemblyContext) (base : Nat) (assembly : Assembly)

/-- The number of blocks that are entered, where some were entered before the
first segment. -/
def depth : Nat := base + assembly.frames.length

/-- Refuse a segment that is left unread. -/
def refuse (cause : ParseCause) (segment : Segment) : Except Refusal Assembly :=
  .error
    { error := .parse cause (some segment.position) context.source
      consumed := false
      depth := assembly.depth base }

/-- The expression that a text writes. -/
def readExpr (content : String) (consumed : Bool) (depth : Nat) :
    Except Refusal Expr :=
  match Expr.parse context.limits context.known content with
  | .ok expr => .ok expr
  | .error error => .error { error, consumed, depth }

/-- Go into a block, which must not be nested too deep, and tell how deep it is. -/
def enter (segment : Segment) : Except Refusal Nat :=
  let depth := assembly.depth base + 1
  match
    context.limits.checkNesting depth (some segment.position) context.source
  with
  | .ok _ => .ok depth
  | .error error => .error { error, consumed := true, depth }

/-- Begin a conditional. -/
def stepIf (segment : Segment) : Except Refusal Assembly := do
  let depth ← enter context base assembly segment
  let condition ← readExpr context segment.content true depth
  return assembly.openBlock (.branch condition []) segment.position

/-- Begin a loop. -/
def stepEach (segment : Segment) : Except Refusal Assembly := do
  let depth ← enter context base assembly segment
  match Tag.binding? segment.content.toList with
  | none =>
      .error
        { error := .parse .malformedEach (some segment.position) context.source
          consumed := true
          depth }
  | some (variableName, iterable) => do
      let iterable ← readExpr context (String.ofList iterable) true depth
      return assembly.openBlock (.loop (String.ofList variableName) iterable)
        segment.position

/-- Begin a branch with a condition. -/
def stepElif (segment : Segment) : Except Refusal Assembly :=
  match assembly.frames with
  | { block := .branch condition earlier, position, before } :: outer => do
      let next ← readExpr context segment.content true (assembly.depth base)
      let earlier := (condition, assembly.nodes.reverse) :: earlier
      return {
        nodes := []
        frames := { block := .branch next earlier, position, before } :: outer }
  | { block := .otherwise _ _, position := _, before := _ } :: _ =>
      refuse context base assembly (.branchAfterElse "elif") segment
  | _ => refuse context base assembly (.unmatchedBranch "elif") segment

/-- Begin the branch without a condition. -/
def stepElse (segment : Segment) : Except Refusal Assembly :=
  match assembly.frames with
  | { block := .branch condition earlier, position, before } :: outer =>
      let last := (condition, assembly.nodes.reverse)
      .ok {
        nodes := []
        frames := { block := .otherwise last earlier, position, before } :: outer }
  | { block := .otherwise _ _, position := _, before := _ } :: _ =>
      refuse context base assembly (.branchAfterElse "else") segment
  | _ => refuse context base assembly (.unmatchedBranch "else") segment

/-- Close the innermost block. -/
def stepClosing (closing : Closing) (segment : Segment) :
    Except Refusal Assembly :=
  match assembly.frames with
  | [] =>
      refuse context base assembly (.unexpectedClosing closing.keyword none) segment
  | frame :: outer =>
      if closing = frame.block.closing then
        .ok {
          nodes := frame.block.close assembly.nodes.reverse :: frame.before
          frames := outer }
      else
        refuse context base assembly
          (.unexpectedClosing closing.keyword (some frame.block.closingKeyword))
          segment

/-- Add a segment. -/
def step (segment : Segment) : Except Refusal Assembly :=
  match segment.kind with
  | .text => .ok (assembly.push (.text segment.content))
  | .output => do
      let expr ← readExpr context segment.content false (assembly.depth base)
      return assembly.push (.output expr)
  | .rawOutput => do
      let expr ← readExpr context segment.content false (assembly.depth base)
      return assembly.push (.rawOutput expr)
  | .opening .ifBlock => stepIf context base assembly segment
  | .opening .eachBlock => stepEach context base assembly segment
  | .opening .elifBranch => stepElif context base assembly segment
  | .opening .elseBranch => stepElse context base assembly segment
  | .opening (.other keyword) =>
      refuse context base assembly (.unknownKeyword keyword) segment
  | .closing closing => stepClosing context base assembly closing segment

/-- The template, when every block is closed. -/
def finish : Except Error Template :=
  match assembly.frames with
  | [] => .ok assembly.nodes.reverse
  | frame :: _ =>
      .error
        (.parse (.unclosedBlock frame.block.closingKeyword) (some frame.position)
          context.source)

end Assembly
end Templating
