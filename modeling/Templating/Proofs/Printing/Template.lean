import Templating.Limits
import Templating.Proofs.Printing.Expr
import Templating.Template

/-!
# Printing templates

The canonical text of a template: literal text as it is, and a tag for every output
and at every end of a body. A branch without a condition has its tag even when
nothing stands in it. Expressions stand in parentheses.
-/

namespace Templating

/-- A piece of the text of a template: literal text, or a tag with the text between
its braces. -/
inductive Piece
  | text (content : List Char)
  /-- A tag, with or without the mark of raw output. -/
  | tag (raw : Bool) (body : List Char)

namespace Piece

/-- The text of a piece. -/
def printed : Piece → List Char
  | .text content => content
  | .tag raw body =>
      '\x7b' :: '\x7b' :: ((if raw then ['!'] else []) ++ body ++ ['\x7d', '\x7d'])

/-- The text of several pieces. -/
def printedAll (pieces : List Piece) : List Char := pieces.flatMap printed

@[simp] theorem printedAll_nil : printedAll [] = [] := rfl

@[simp] theorem printedAll_cons (piece : Piece) (pieces : List Piece) :
    printedAll (piece :: pieces) = piece.printed ++ printedAll pieces := rfl

@[simp] theorem printedAll_append (pieces others : List Piece) :
    printedAll (pieces ++ others) = printedAll pieces ++ printedAll others :=
  List.flatMap_append

theorem printedAll_singleton (piece : Piece) : printedAll [piece] = piece.printed :=
  List.flatMap_singleton printed piece

/-- The text between the braces, without its margins, is within the limits. -/
def Fits (limits : Limits) : Piece → Prop
  | .text _ => True
  | .tag _ body => (Text.trim Text.isMargin body).length ≤ limits.expressionLength

instance (limits : Limits) : (piece : Piece) → Decidable (piece.Fits limits)
  | .text _ => inferInstanceAs (Decidable True)
  | .tag _ body =>
      inferInstanceAs
        (Decidable
          ((Text.trim Text.isMargin body).length ≤ limits.expressionLength))

end Piece

/-- An expression as a tag holds it. -/
def Expr.enclosed (expr : Expr) : List Char := Text.parenthesized expr.printed

/-- An expression as a loop tag holds it, behind the variable. -/
def Expr.bound (variableName : String) (expr : Expr) : List Char :=
  variableName.toList ++ " in ".toList ++ expr.enclosed

mutual

/-- The pieces of the canonical text of a node. -/
def Node.pieces : Node → List Piece
  | .text content => [.text content.toList]
  | .output expr => [.tag false (' ' :: (expr.enclosed ++ [' ']))]
  | .rawOutput expr => [.tag true (' ' :: (expr.enclosed ++ [' ']))]
  | .conditional condition body branches =>
      .tag false ("if".toList ++ ' ' :: condition.enclosed) ::
        (Node.piecesAll body ++ branches.pieces)
  | .loop variableName iterable body =>
      .tag false ("each".toList ++ ' ' :: iterable.bound variableName) ::
        (Node.piecesAll body ++ [.tag false "endeach".toList])
  | .unknown _ => []

/-- The pieces of the canonical text of branches, with the closing tag. -/
def Branches.pieces : Branches → List Piece
  | .done => [.tag false "endif".toList]
  | .elif condition body branches =>
      .tag false ("elif".toList ++ ' ' :: condition.enclosed) ::
        (Node.piecesAll body ++ branches.pieces)
  | .otherwise body =>
      .tag false "else".toList ::
        (Node.piecesAll body ++ [.tag false "endif".toList])

/-- The pieces of the canonical text of several nodes. -/
def Node.piecesAll : List Node → List Piece
  | [] => []
  | node :: rest => node.pieces ++ Node.piecesAll rest

end

mutual

/-- A node without the offsets in its expressions. -/
def Node.unplaced : Node → Node
  | .text content => .text content
  | .output expr => .output expr.unplaced
  | .rawOutput expr => .rawOutput expr.unplaced
  | .conditional condition body branches =>
      .conditional condition.unplaced (Node.unplacedAll body) branches.unplaced
  | .loop variableName iterable body =>
      .loop variableName iterable.unplaced (Node.unplacedAll body)
  | .unknown kind => .unknown kind

/-- Branches without the offsets in their expressions. -/
def Branches.unplaced : Branches → Branches
  | .done => .done
  | .elif condition body branches =>
      .elif condition.unplaced (Node.unplacedAll body) branches.unplaced
  | .otherwise body => .otherwise (Node.unplacedAll body)

/-- Several nodes without the offsets in their expressions. -/
def Node.unplacedAll : List Node → List Node
  | [] => []
  | node :: rest => node.unplaced :: Node.unplacedAll rest

end

mutual

/-- Offsets do not nest blocks. -/
theorem Node.blockDepth_unplaced (node : Node) :
    node.unplaced.blockDepth = node.blockDepth := by
  cases node with
  | conditional condition body branches =>
      simp only [Node.unplaced, Node.blockDepth, Node.blockDepthAll_unplaced body,
        Branches.blockDepth_unplaced branches]
  | loop variableName iterable body =>
      simp only [Node.unplaced, Node.blockDepth, Node.blockDepthAll_unplaced body]
  | _ => rfl

theorem Branches.blockDepth_unplaced (branches : Branches) :
    branches.unplaced.blockDepth = branches.blockDepth := by
  cases branches with
  | done => rfl
  | elif condition body branches =>
      simp only [Branches.unplaced, Branches.blockDepth,
        Node.blockDepthAll_unplaced body, Branches.blockDepth_unplaced branches]
  | otherwise body =>
      simp only [Branches.unplaced, Branches.blockDepth,
        Node.blockDepthAll_unplaced body]

theorem Node.blockDepthAll_unplaced (nodes : List Node) :
    Node.blockDepthAll (Node.unplacedAll nodes) = Node.blockDepthAll nodes := by
  cases nodes with
  | nil => rfl
  | cons node others =>
      simp only [Node.unplacedAll, Node.blockDepthAll, Node.blockDepth_unplaced node,
        Node.blockDepthAll_unplaced others]

end

/-- A node is literal text. -/
def Node.IsText : Node → Prop
  | .text _ => True
  | _ => False

/-- Literal text that no tag begins in, and with whose end none begins. -/
structure Text.IsLiteral (content : List Char) : Prop where
  nonempty : content ≠ []
  untagged : ¬ ['\x7b', '\x7b'] <:+: content
  closed : content.getLast? ≠ some '\x7b'

mutual

/-- Every part of a node can be written. -/
def Node.Writable (known : String → Bool) : Node → Prop
  | .text content => Text.IsLiteral content.toList
  | .output expr => expr.Writable known
  | .rawOutput expr => expr.Writable known
  | .conditional condition body branches =>
      condition.Writable known ∧ Node.WritableAll known body ∧ branches.Writable known
  | .loop variableName iterable body =>
      (variableName.toList ≠ [] ∧
          ∀ character ∈ variableName.toList, Text.isWord character = true) ∧
        iterable.Writable known ∧ Node.WritableAll known body
  | .unknown _ => False

/-- Every part of branches can be written. -/
def Branches.Writable (known : String → Bool) : Branches → Prop
  | .done => True
  | .elif condition body branches =>
      condition.Writable known ∧ Node.WritableAll known body ∧ branches.Writable known
  | .otherwise body => Node.WritableAll known body

/-- Every part of the nodes can be written, and no two texts are adjacent. -/
def Node.WritableAll (known : String → Bool) : List Node → Prop
  | [] => True
  | node :: rest =>
      node.Writable known ∧
        (∀ next ∈ rest.head?, ¬ (node.IsText ∧ next.IsText)) ∧
        Node.WritableAll known rest

end

namespace Template

/-- The canonical text of a template. -/
def printed (template : Template) : String :=
  String.ofList (Piece.printedAll (Node.piecesAll template))

/-- A template with names that spell keywords of tags, a string that holds closing
braces and a quote, and a branch in which nothing stands. -/
def tricky : Template :=
  [.text "\x7b \x7d\x7d ",
    .conditional
      (.binary 0 .conjunction (.call 0 "id" [.string 0 "\x7d\x7d\x22"])
        (.unary 0 .negation (.access 0 "if" "else")))
      [.output (.reference 0 "endif")] (.otherwise []),
    .loop "in" (.reference 0 "each") [.text "!", .rawOutput (.null 0)]]

example :
    tricky.printed =
      "\x7b \x7d\x7d " ++
        "\x7b\x7bif ((id(\"\x7d\x7d\\\"\")) and (not (if.else)))\x7d\x7d" ++
        "\x7b\x7b (endif) \x7d\x7d\x7b\x7belse\x7d\x7d\x7b\x7bendif\x7d\x7d" ++
        "\x7b\x7beach in in (each)\x7d\x7d!\x7b\x7b! (null) \x7d\x7d" ++
        "\x7b\x7bendeach\x7d\x7d" := by
  decide

/-- A template without the offsets in its expressions. -/
def unplaced (template : Template) : Template := Node.unplacedAll template

/-- Every part of a template can be written, and no two texts are adjacent. -/
def Writable (known : String → Bool) (template : Template) : Prop :=
  Node.WritableAll known template

/-- The canonical text of a template is within the limits: each tag, each expression
with its parentheses, and the nesting of blocks. -/
structure Fits (limits : Limits) (template : Template) : Prop where
  tags : ∀ piece ∈ Node.piecesAll template, piece.Fits limits
  expressions :
    ∀ expr ∈ template.expressions, expr.printedNesting + 1 ≤ limits.expressionDepth
  blocks : template.blockDepth ≤ limits.nestingDepth

end Template
end Templating
