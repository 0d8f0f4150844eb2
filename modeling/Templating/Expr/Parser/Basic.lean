import Templating.Expr
import Templating.Token.Scanner

/-!
# Parsers of tokens

A parser reads tokens from the front of a list and returns what is left. When it
stops with an error it tells where it stopped, so that another attempt can go on
from there. Every parser of this module reads at least one token, and with that
repetition ends.
-/

namespace Templating

/-- The tokens that are not read yet, and the number of parentheses, negations
and calls that were entered and not left. -/
structure Cursor where
  tokens : List Token
  depth : Nat

/-- An error together with the place where the reading stopped. -/
structure Stop where
  error : Error
  cursor : Cursor

/-- What a parser makes of a list of tokens: a result and the tokens after it,
or a stop. -/
abbrev Reading (α : Type) := Except Stop (α × List Token)

/-- A reader of at least one token. -/
structure Parser (α : Type) where
  run : List Token → Reading α
  shorter :
    ∀ {tokens : List Token} {result : α} {rest : List Token},
      run tokens = .ok (result, rest) → rest.length < tokens.length

/-- What parsing an expression depends on besides its tokens. -/
structure ParserContext where
  /-- The text that the tokens were read from. -/
  source : String
  /-- The functions that may be called. -/
  known : String → Bool
  limits : Limits

namespace ParserContext

/-- Stop with an error at an offset. -/
def stop {α : Type}
    (context : ParserContext)
    (cause : ParseCause)
    (position : Int)
    (cursor : Cursor) :
    Except Stop α :=
  .error ⟨.parse cause (some position) (some context.source), cursor⟩

/-- The offset behind the last token. -/
def ending (context : ParserContext) : Int := context.source.length

/-- Read one token of a given kind; anything else is not what was expected. -/
def expect
    (context : ParserContext)
    (kind : TokenKind)
    (expected : Expected)
    (depth : Nat) :
    List Token → Reading Token
  | [] => context.stop (.missing expected none) context.ending ⟨[], depth⟩
  | token :: rest =>
      if token.kind = kind then .ok (token, rest)
      else
        context.stop (.missing expected (some token.text)) token.position
          ⟨token :: rest, depth⟩

theorem expect_shorter
    {context : ParserContext}
    {kind : TokenKind}
    {expected : Expected}
    {depth : Nat}
    {tokens rest : List Token}
    {found : Token}
    (read : context.expect kind expected depth tokens = .ok (found, rest)) :
    rest.length < tokens.length := by
  unfold expect stop at read
  split at read
  · simp at read
  · split at read
    · cases read
      simp
    · simp at read

end ParserContext

namespace Parser

/-- Extend an expression by further operands, each behind the operator. The
operands group to the left. -/
def chainFrom
    (kind : TokenKind)
    (operator : BinaryOperator)
    (operand : Parser Expr)
    (left : Expr)
    (tokens : List Token) :
    Reading Expr :=
  match tokens with
  | [] => .ok (left, [])
  | token :: rest =>
    if token.kind = kind then
      match _read : operand.run rest with
      | .error stop => .error stop
      | .ok (right, after) =>
          chainFrom kind operator operand
            (.binary token.position operator left right) after
    else .ok (left, token :: rest)
termination_by tokens.length
decreasing_by
  have progress := operand.shorter _read
  simp only [List.length_cons]
  omega

theorem chainFrom_length_le
    {kind : TokenKind}
    {operator : BinaryOperator}
    {operand : Parser Expr}
    {left result : Expr}
    {tokens rest : List Token}
    (read : chainFrom kind operator operand left tokens = .ok (result, rest)) :
    rest.length ≤ tokens.length := by
  fun_induction chainFrom kind operator operand left tokens with
  | case1 => simp_all
  | case2 => simp at read
  | case3 _ token others _ _ _ operandRead inductionHypothesis =>
      have progress := operand.shorter operandRead
      have whole := inductionHypothesis read
      simp only [List.length_cons]
      omega
  | case4 =>
      cases read
      simp

/-- One operand, or several with the operator between them. -/
def chain
    (kind : TokenKind)
    (operator : BinaryOperator)
    (operand : Parser Expr) :
    Parser Expr where
  run tokens :=
    match operand.run tokens with
    | .error stop => .error stop
    | .ok (left, rest) => chainFrom kind operator operand left rest
  shorter {_ _ _} read := by
    split at read
    · simp at read
    · next left rest operandRead =>
        have progress := operand.shorter operandRead
        have whole := chainFrom_length_le read
        omega

/-- One operand, or two with a relation between them. Relations do not chain. -/
def comparison (operand : Parser Expr) : Parser Expr where
  run tokens :=
    match operand.run tokens with
    | .error stop => .error stop
    | .ok (left, []) => .ok (left, [])
    | .ok (left, token :: rest) =>
      match token.kind with
      | .relation kind =>
        match operand.run rest with
        | .error stop => .error stop
        | .ok (right, after) =>
            .ok (.binary token.position (.relation kind) left right, after)
      | _ => .ok (left, token :: rest)
  shorter {tokens _ _} read := by
    cases first : operand.run tokens with
    | error stop => simp [first] at read
    | ok pair =>
        obtain ⟨left, rest⟩ := pair
        have progress := operand.shorter first
        cases rest with
        | nil =>
            simp only [first, Except.ok.injEq, Prod.mk.injEq] at read
            rw [← read.2]
            exact progress
        | cons token others =>
            simp only [first] at read
            split at read
            · split at read
              · simp at read
              · next secondRead =>
                  have further := operand.shorter secondRead
                  cases read
                  simp only [List.length_cons] at progress
                  omega
            · cases read
              exact progress

/-- The expressions after the first one of an argument list, up to the closing
parenthesis. -/
def argumentsFrom
    (context : ParserContext)
    (depth : Nat)
    (expression : Parser Expr)
    (tokens : List Token) :
    Reading (List Expr) :=
  match tokens with
  | [] => context.stop (.missing .argumentsEnd none) context.ending ⟨[], depth⟩
  | token :: rest =>
    match token.kind with
    | .closeParenthesis => .ok ([], rest)
    | .comma =>
      match _read : expression.run rest with
      | .error stop => .error stop
      | .ok (argument, after) =>
        match argumentsFrom context depth expression after with
        | .error stop => .error stop
        | .ok (others, last) => .ok (argument :: others, last)
    | _ =>
        context.stop (.missing .argumentsEnd (some token.text)) token.position
          ⟨token :: rest, depth⟩
termination_by tokens.length
decreasing_by
  have progress := expression.shorter _read
  simp only [List.length_cons]
  omega

theorem argumentsFrom_shorter
    {context : ParserContext}
    {depth : Nat}
    {expression : Parser Expr}
    {tokens rest : List Token}
    {result : List Expr}
    (read : argumentsFrom context depth expression tokens = .ok (result, rest)) :
    rest.length < tokens.length := by
  fun_induction argumentsFrom context depth expression tokens
      generalizing result rest with
  | case1 => simp [ParserContext.stop] at read
  | case2 =>
      cases read
      simp
  | case3 => simp at read
  | case4 => simp at read
  | case5 _ _ _ _ _ argumentRead _ _ othersRead inductionHypothesis =>
      have progress := expression.shorter argumentRead
      have whole := inductionHypothesis othersRead
      cases read
      simp only [List.length_cons]
      omega
  | case6 => simp [ParserContext.stop] at read

/-- The argument list of a call behind its opening parenthesis. -/
def arguments
    (context : ParserContext)
    (depth : Nat)
    (expression : Parser Expr) :
    Parser (List Expr) where
  run tokens :=
    match tokens with
    | ⟨.closeParenthesis, _, _⟩ :: rest => .ok ([], rest)
    | tokens =>
      match expression.run tokens with
      | .error stop => .error stop
      | .ok (argument, rest) =>
        match argumentsFrom context depth expression rest with
        | .error stop => .error stop
        | .ok (others, last) => .ok (argument :: others, last)
  shorter {_ _ _} read := by
    split at read
    · cases read
      simp
    · split at read
      · simp at read
      · next argumentRead =>
          split at read
          · simp at read
          · next othersRead =>
              have progress := expression.shorter argumentRead
              have whole := argumentsFrom_shorter othersRead
              cases read
              omega

end Parser
end Templating
