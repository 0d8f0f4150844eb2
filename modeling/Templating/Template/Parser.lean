import Templating.Segment.Lexer
import Templating.Template.Assembly

/-!
# Parsing templates

A template is parsed from its text in two passes: the text is cut into segments,
and the segments are put together. Both passes check the limits, and the second
one parses the expressions.
-/

namespace Templating
namespace Template

/-- The segments that are not read yet, and the number of blocks that were
entered and not left. -/
structure Cursor where
  segments : List Segment
  depth : Nat

/-- The template or the error that a list of segments gives, and where reading
them stopped. -/
abbrev Reading := Except Error Template × Cursor

/-- Put further segments together. A closing tag without a keyword, outside of
all blocks, ends a template. -/
def assembleFrom
    (context : AssemblyContext)
    (base : Nat)
    (assembly : Assembly)
    (segments : List Segment) :
    Reading :=
  match segments with
  | [] => (assembly.finish context, ⟨[], assembly.depth base⟩)
  | segment :: rest =>
    if segment.kind = .closing (.other none) ∧ assembly.frames = [] then
      (.ok assembly.nodes.reverse, ⟨segment :: rest, base⟩)
    else
      match assembly.step context base segment with
      | .ok next => assembleFrom context base next rest
      | .error refusal =>
          (.error refusal.error,
            ⟨if refusal.consumed then rest else segment :: rest, refusal.depth⟩)

/-- Put the segments from a cursor on together. -/
def parseFrom (context : AssemblyContext) (cursor : Cursor) : Reading :=
  assembleFrom context cursor.depth .empty cursor.segments

/-- The template that segments make up. -/
def ofSegments (context : AssemblyContext) (segments : List Segment) :
    Except Error Template :=
  (parseFrom context { segments, depth := 0 }).1

/-- The segments of a text and the template that they make up. -/
def parseWithSegments
    (limits : Limits)
    (known : String → Bool)
    (source : String) :
    Except Error (List Segment × Template) := do
  let segments ← Segment.ofTemplate limits source
  let template ← ofSegments { source := some source, known, limits } segments
  return (segments, template)

/-- The template that a text writes. The functions that it calls must be
known. -/
def parse (limits : Limits) (known : String → Bool) (source : String) :
    Except Error Template := do
  let (_, template) ← parseWithSegments limits known source
  return template

end Template
end Templating
