/-!
# Segments

A template is a sequence of segments: literal text, output tags and block tags.
An output tag holds an expression. A block tag opens a block, starts another
branch of a block, or closes a block.
-/

namespace Templating

/-- The keyword of a tag that opens a block or starts a branch. -/
inductive Opening
  | ifBlock
  | elifBranch
  | elseBranch
  | eachBlock
  /-- A keyword that opens nothing, or none at all. -/
  | other (keyword : Option String)
  deriving DecidableEq

/-- The keyword of a tag that closes a block. -/
inductive Closing
  | endIf
  | endEach
  /-- A keyword that closes nothing, or none at all. -/
  | other (keyword : Option String)
  deriving DecidableEq

namespace Opening

/-- The spelling of an opening keyword. -/
def keyword : Opening → Option String
  | .ifBlock => some "if"
  | .elifBranch => some "elif"
  | .elseBranch => some "else"
  | .eachBlock => some "each"
  | .other keyword => keyword

/-- The opening with a given spelling. -/
def ofKeyword (keyword : Option String) : Opening :=
  if keyword = some "if" then .ifBlock
  else if keyword = some "elif" then .elifBranch
  else if keyword = some "else" then .elseBranch
  else if keyword = some "each" then .eachBlock
  else .other keyword

/-- The keyword is one of the language. -/
def IsKnown : Opening → Prop
  | .other _ => False
  | _ => True

@[simp] theorem keyword_ofKeyword (keyword : Option String) :
    (ofKeyword keyword).keyword = keyword := by
  unfold ofKeyword
  repeat' split
  all_goals simp_all [Opening.keyword]

end Opening

namespace Closing

/-- The spelling of a closing keyword. -/
def keyword : Closing → Option String
  | .endIf => some "endif"
  | .endEach => some "endeach"
  | .other keyword => keyword

/-- The closing with a given spelling. -/
def ofKeyword (keyword : Option String) : Closing :=
  if keyword = some "endif" then .endIf
  else if keyword = some "endeach" then .endEach
  else .other keyword

/-- The keyword is one of the language. -/
def IsKnown : Closing → Prop
  | .other _ => False
  | _ => True

@[simp] theorem keyword_ofKeyword (keyword : Option String) :
    (ofKeyword keyword).keyword = keyword := by
  unfold ofKeyword
  repeat' split
  all_goals simp_all [Closing.keyword]

end Closing

/-- What a segment is. -/
inductive SegmentKind
  | text
  | output
  /-- An output tag whose value is written without escaping. -/
  | rawOutput
  | opening (opening : Opening)
  | closing (closing : Closing)
  deriving DecidableEq

/-- A piece of a template. -/
structure Segment where
  kind : SegmentKind
  /-- Literal text, or what a tag holds besides its keyword. -/
  content : String
  /-- The offset of the segment in its template. -/
  position : Int
  deriving DecidableEq

namespace Segment

/-- The keyword of a block tag. -/
def keyword (segment : Segment) : Option String :=
  match segment.kind with
  | .opening opening => opening.keyword
  | .closing closing => closing.keyword
  | _ => none

/-- A block tag carries a keyword of the language. -/
def IsKnown (segment : Segment) : Prop :=
  match segment.kind with
  | .opening opening => opening.IsKnown
  | .closing closing => closing.IsKnown
  | _ => True

end Segment
end Templating
