import Templating.Expr.Parser.Levels

/-!
# The grammar of expressions

The derivations of the grammar

    chain or    := chain and ("or" chain and)*
    chain and   := comparison ("and" comparison)*
    comparison  := operand (relation operand)?
    operand     := "not" operand | primary
    primary     := "(" chain or ")" | literal | name "(" arguments ")"
                 | name "." name | name
    arguments   := (chain or ("," chain or)*)?

as trees, apart from any way to find them. A derivation has the tokens that it
derives, the expression that it means, the names that it calls, and the greatest
number of parentheses, negations and argument lists around one of its points.
-/

namespace Templating
namespace Grammar

/-- A token whose kind is known from where it stands. -/
structure Leaf where
  text : String
  position : Nat

/-- The token of a leaf. -/
def Leaf.token (leaf : Leaf) (kind : TokenKind) : Token :=
  { kind, text := leaf.text, position := leaf.position }

/-- A connective between any number of operands. -/
inductive Connective
  | disjunction
  | conjunction

/-- What an expression may be at a place. -/
inductive Rank
  /-- Operands with a connective between them. -/
  | chain (connective : Connective)
  | comparison
  | operand
  | primary

/-- What is derived. -/
inductive Symbol
  | expression (rank : Rank)
  /-- The operands of a chain after the first one, each behind the connective. -/
  | links (connective : Connective)
  | arguments
  /-- The arguments after the first one, each behind a comma. -/
  | furtherArguments

namespace Connective

/-- The operands of a connective. -/
def operand : Connective → Rank
  | .disjunction => .chain .conjunction
  | .conjunction => .comparison

/-- The token of a connective. -/
def kind : Connective → TokenKind
  | .disjunction => .disjunction
  | .conjunction => .conjunction

/-- The operator of a connective. -/
def operator : Connective → BinaryOperator
  | .disjunction => .disjunction
  | .conjunction => .conjunction

end Connective

/-- A whole expression. -/
abbrev whole : Symbol := .expression (.chain .disjunction)

/-- A literal. -/
inductive Literal
  | string
  | number
  | boolean (value : Bool)
  | null

namespace Literal

/-- The token of a literal. -/
def kind : Literal → TokenKind
  | .string => .string
  | .number => .number
  | .boolean value => .boolean value
  | .null => .null

/-- The expression of a literal. -/
def expr (leaf : Leaf) : Literal → Expr
  | .string => .string leaf.position leaf.text
  | .number => .number leaf.position (leaf.token .number).number
  | .boolean value => .boolean leaf.position value
  | .null => .null leaf.position

end Literal

/-- A derivation of the grammar. -/
inductive Derivation : Symbol → Type
  | chain
      {connective : Connective}
      (first : Derivation (.expression connective.operand))
      (links : Derivation (.links connective)) :
      Derivation (.expression (.chain connective))
  | noLink {connective : Connective} : Derivation (.links connective)
  | link
      {connective : Connective}
      (operator : Leaf)
      (operand : Derivation (.expression connective.operand))
      (links : Derivation (.links connective)) :
      Derivation (.links connective)
  | single (operand : Derivation (.expression .operand)) :
      Derivation (.expression .comparison)
  | compared
      (left : Derivation (.expression .operand))
      (relation : Relation)
      (operator : Leaf)
      (right : Derivation (.expression .operand)) :
      Derivation (.expression .comparison)
  | negation
      (operator : Leaf)
      (operand : Derivation (.expression .operand)) :
      Derivation (.expression .operand)
  | primary (inner : Derivation (.expression .primary)) :
      Derivation (.expression .operand)
  | parenthesized (opening : Leaf) (inner : Derivation whole) (closing : Leaf) :
      Derivation (.expression .primary)
  | literal (constant : Literal) (leaf : Leaf) : Derivation (.expression .primary)
  | call
      (name opening : Leaf)
      (arguments : Derivation .arguments)
      (closing : Leaf) :
      Derivation (.expression .primary)
  | access (object dot property : Leaf) : Derivation (.expression .primary)
  | reference (name : Leaf) : Derivation (.expression .primary)
  | noArgument : Derivation .arguments
  | firstArgument
      (argument : Derivation whole)
      (further : Derivation .furtherArguments) :
      Derivation .arguments
  | noFurtherArgument : Derivation .furtherArguments
  | furtherArgument
      (comma : Leaf)
      (argument : Derivation whole)
      (further : Derivation .furtherArguments) :
      Derivation .furtherArguments

/-- What a derivation means: an expression, the expressions of arguments, or what
the links of a chain make of the expression in front of them. -/
abbrev Symbol.Meaning : Symbol → Type
  | .expression _ => Expr
  | .links _ => Expr → Expr
  | .arguments => List Expr
  | .furtherArguments => List Expr

namespace Derivation

/-- The tokens that are derived. -/
@[simp] def tokens {symbol : Symbol} : Derivation symbol → List Token
  | .chain first links => first.tokens ++ links.tokens
  | .noLink => []
  | @link connective operator operand links =>
      operator.token connective.kind :: (operand.tokens ++ links.tokens)
  | .single operand => operand.tokens
  | .compared left relation operator right =>
      left.tokens ++ operator.token (.relation relation) :: right.tokens
  | .negation operator operand => operator.token .negation :: operand.tokens
  | .primary inner => inner.tokens
  | .parenthesized opening inner closing =>
      opening.token .openParenthesis ::
        (inner.tokens ++ [closing.token .closeParenthesis])
  | .literal constant leaf => [leaf.token constant.kind]
  | .call name opening arguments closing =>
      name.token .name :: opening.token .openParenthesis ::
        (arguments.tokens ++ [closing.token .closeParenthesis])
  | .access object dot property =>
      [object.token .name, dot.token .dot, property.token .name]
  | .reference name => [name.token .name]
  | .noArgument => []
  | .firstArgument argument further => argument.tokens ++ further.tokens
  | .noFurtherArgument => []
  | .furtherArgument comma argument further =>
      comma.token .comma :: (argument.tokens ++ further.tokens)

/-- What is derived means this. Chains group to the left. An operator has the
offset of its token, and anything else the offset of its first token; parentheses
leave no trace. -/
def meaning : {symbol : Symbol} → Derivation symbol → symbol.Meaning
  | _, .chain first links => links.meaning first.meaning
  | _, .noLink => fun left => left
  | _, @link connective operator operand links => fun left =>
      links.meaning
        (.binary operator.position connective.operator left operand.meaning)
  | _, .single operand => operand.meaning
  | _, .compared left relation operator right =>
      .binary operator.position (.relation relation) left.meaning right.meaning
  | _, .negation operator operand =>
      .unary operator.position .negation operand.meaning
  | _, .primary inner => inner.meaning
  | _, .parenthesized _ inner _ => inner.meaning
  | _, .literal constant leaf => constant.expr leaf
  | _, .call name _ arguments _ =>
      .call name.position name.text arguments.meaning
  | _, .access object _ property =>
      .access object.position object.text property.text
  | _, .reference name => .reference name.position name.text
  | _, .noArgument => ([] : List Expr)
  | _, .firstArgument argument further =>
      (argument.meaning :: further.meaning : List Expr)
  | _, .noFurtherArgument => ([] : List Expr)
  | _, .furtherArgument _ argument further =>
      (argument.meaning :: further.meaning : List Expr)

/-- The names that are called. -/
@[simp] def calls {symbol : Symbol} : Derivation symbol → List String
  | .chain first links => first.calls ++ links.calls
  | .noLink => []
  | .link _ operand links => operand.calls ++ links.calls
  | .single operand => operand.calls
  | .compared left _ _ right => left.calls ++ right.calls
  | .negation _ operand => operand.calls
  | .primary inner => inner.calls
  | .parenthesized _ inner _ => inner.calls
  | .literal _ _ => []
  | .call name _ arguments _ => name.text :: arguments.calls
  | .access _ _ _ => []
  | .reference _ => []
  | .noArgument => []
  | .firstArgument argument further => argument.calls ++ further.calls
  | .noFurtherArgument => []
  | .furtherArgument _ argument further => argument.calls ++ further.calls

/-- The greatest number of parentheses, negations and argument lists around a
point. The inside of an empty argument list is a point as well. -/
@[simp] def nesting {symbol : Symbol} : Derivation symbol → Nat
  | .chain first links => max first.nesting links.nesting
  | .noLink => 0
  | .link _ operand links => max operand.nesting links.nesting
  | .single operand => operand.nesting
  | .compared left _ _ right => max left.nesting right.nesting
  | .negation _ operand => operand.nesting + 1
  | .primary inner => inner.nesting
  | .parenthesized _ inner _ => inner.nesting + 1
  | .literal _ _ => 0
  | .call _ _ arguments _ => arguments.nesting + 1
  | .access _ _ _ => 0
  | .reference _ => 0
  | .noArgument => 0
  | .firstArgument argument further => max argument.nesting further.nesting
  | .noFurtherArgument => 0
  | .furtherArgument _ argument further => max argument.nesting further.nesting

/-- A derivation calls known functions only and nests no deeper than allowed. -/
structure Admitted
    (known : String → Bool)
    (allowance : Nat)
    {symbol : Symbol}
    (derivation : Derivation symbol) :
    Prop where
  calls : ∀ name ∈ derivation.calls, known name = true
  nesting : derivation.nesting ≤ allowance

section

variable (known : String → Bool) (allowance : Nat)

theorem admitted_iff {symbol : Symbol} (derivation : Derivation symbol) :
    derivation.Admitted known allowance ↔
      (∀ name ∈ derivation.calls, known name = true) ∧
        derivation.nesting ≤ allowance :=
  ⟨fun admitted => ⟨admitted.calls, admitted.nesting⟩,
    fun admitted => ⟨admitted.1, admitted.2⟩⟩

/-- A derivation with two parts is admitted exactly when both of them are. -/
theorem admitted_parts
    {symbol left right : Symbol}
    {derivation : Derivation symbol}
    {first : Derivation left}
    {second : Derivation right}
    (calls : derivation.calls = first.calls ++ second.calls)
    (nesting : derivation.nesting = max first.nesting second.nesting) :
    derivation.Admitted known allowance ↔
      first.Admitted known allowance ∧ second.Admitted known allowance := by
  simp only [admitted_iff, calls, nesting, List.forall_mem_append, Nat.max_le]
  exact and_and_and_comm

@[simp] theorem admitted_chain
    {connective : Connective}
    (first : Derivation (.expression connective.operand))
    (links : Derivation (.links connective)) :
    (chain first links).Admitted known allowance ↔
      first.Admitted known allowance ∧ links.Admitted known allowance :=
  admitted_parts known allowance rfl rfl

@[simp] theorem admitted_link
    {connective : Connective}
    (operator : Leaf)
    (operand : Derivation (.expression connective.operand))
    (links : Derivation (.links connective)) :
    (link operator operand links).Admitted known allowance ↔
      operand.Admitted known allowance ∧ links.Admitted known allowance :=
  admitted_parts known allowance rfl rfl

@[simp] theorem admitted_noLink {connective : Connective} :
    (@noLink connective).Admitted known allowance :=
  ⟨by simp [calls], by simp [nesting]⟩

@[simp] theorem admitted_single (operand : Derivation (.expression .operand)) :
    (single operand).Admitted known allowance ↔ operand.Admitted known allowance := by
  simp only [admitted_iff, calls, nesting]

@[simp] theorem admitted_compared
    (left right : Derivation (.expression .operand))
    (relation : Relation)
    (operator : Leaf) :
    (compared left relation operator right).Admitted known allowance ↔
      left.Admitted known allowance ∧ right.Admitted known allowance :=
  admitted_parts known allowance rfl rfl

@[simp] theorem admitted_primary (inner : Derivation (.expression .primary)) :
    (primary inner).Admitted known allowance ↔ inner.Admitted known allowance := by
  simp only [admitted_iff, calls, nesting]

@[simp] theorem admitted_literal (constant : Literal) (leaf : Leaf) :
    (literal constant leaf).Admitted known allowance :=
  ⟨by simp [calls], by simp [nesting]⟩

@[simp] theorem admitted_access (object dot property : Leaf) :
    (access object dot property).Admitted known allowance :=
  ⟨by simp [calls], by simp [nesting]⟩

@[simp] theorem admitted_reference (name : Leaf) :
    (reference name).Admitted known allowance :=
  ⟨by simp [calls], by simp [nesting]⟩

@[simp] theorem admitted_noArgument : noArgument.Admitted known allowance :=
  ⟨by simp [calls], by simp [nesting]⟩

@[simp] theorem admitted_firstArgument
    (argument : Derivation whole)
    (further : Derivation .furtherArguments) :
    (firstArgument argument further).Admitted known allowance ↔
      argument.Admitted known allowance ∧ further.Admitted known allowance :=
  admitted_parts known allowance rfl rfl

@[simp] theorem admitted_noFurtherArgument :
    noFurtherArgument.Admitted known allowance :=
  ⟨by simp [calls], by simp [nesting]⟩

@[simp] theorem admitted_furtherArgument
    (comma : Leaf)
    (argument : Derivation whole)
    (further : Derivation .furtherArguments) :
    (furtherArgument comma argument further).Admitted known allowance ↔
      argument.Admitted known allowance ∧ further.Admitted known allowance :=
  admitted_parts known allowance rfl rfl

/-! Negations, parentheses and calls use one of the allowance. -/

theorem admitted_deeper
    {symbol inner : Symbol}
    {derivation : Derivation symbol}
    {inside : Derivation inner}
    (calls : derivation.calls = inside.calls)
    (nesting : derivation.nesting = inside.nesting + 1) :
    derivation.Admitted known allowance ↔
      ∃ less, allowance = less + 1 ∧ inside.Admitted known less := by
  simp only [admitted_iff, calls, nesting]
  constructor
  · rintro ⟨isKnown, fits⟩
    exact ⟨allowance - 1, by omega, isKnown, by omega⟩
  · rintro ⟨less, rfl, isKnown, fits⟩
    exact ⟨isKnown, by omega⟩

theorem admitted_negation
    (operator : Leaf)
    (operand : Derivation (.expression .operand)) :
    (negation operator operand).Admitted known allowance ↔
      ∃ inside, allowance = inside + 1 ∧ operand.Admitted known inside :=
  admitted_deeper known allowance rfl rfl

theorem admitted_parenthesized
    (opening closing : Leaf)
    (inner : Derivation whole) :
    (parenthesized opening inner closing).Admitted known allowance ↔
      ∃ inside, allowance = inside + 1 ∧ inner.Admitted known inside :=
  admitted_deeper known allowance rfl rfl

theorem admitted_call
    (name opening closing : Leaf)
    (arguments : Derivation .arguments) :
    (call name opening arguments closing).Admitted known allowance ↔
      known name.text = true ∧
        ∃ inside, allowance = inside + 1 ∧ arguments.Admitted known inside := by
  simp only [admitted_iff, calls, nesting, List.forall_mem_cons]
  constructor
  · rintro ⟨⟨isKnown, others⟩, fits⟩
    exact ⟨isKnown, allowance - 1, by omega, others, by omega⟩
  · rintro ⟨isKnown, inside, rfl, others, fits⟩
    exact ⟨⟨isKnown, others⟩, by omega⟩

end

end Derivation

/-- How tightly a token binds the operands on its sides. What ends an expression
binds least, and what only stands inside an operand binds most. -/
def strength : TokenKind → Nat
  | .closeParenthesis => 0
  | .comma => 0
  | .disjunction => 1
  | .conjunction => 2
  | .relation _ => 3
  | _ => 4

/-- How tightly a token may bind that stands behind an expression of a rank. -/
def Rank.strength : Rank → Nat
  | .chain .disjunction => 0
  | .chain .conjunction => 1
  | .comparison => 2
  | .operand => 3
  | .primary => 3

/-- Tokens that may stand behind what is derived from a symbol. -/
def Symbol.Precedes : Symbol → List Token → Prop
  | _, [] => True
  | .expression rank, token :: _ => strength token.kind ≤ rank.strength
  | .links connective, token :: _ =>
      strength token.kind ≤ (Rank.chain connective).strength
  | .arguments, token :: _ => token.kind = .closeParenthesis
  | .furtherArguments, token :: _ => token.kind = .closeParenthesis

end Grammar
end Templating
