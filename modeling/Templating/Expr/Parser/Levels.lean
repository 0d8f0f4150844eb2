import Templating.Expr.Parser.Basic
import Templating.Number.Numeral

/-!
# Levels of precedence

A whole expression is a disjunction of conjunctions of comparisons of operands.
An operand is a negation, a literal, a name, a property, a call, or a whole
expression in parentheses. Parentheses, negations and argument lists each go one
deeper, and what is parsed there is given by a parser that exists only as long
as the depth is allowed.
-/

namespace Templating

/-- What is parsed inside a negation, or inside parentheses and argument
lists. -/
inductive Level
  | operand
  | whole
  deriving DecidableEq

/-- The number that a token writes. -/
def Token.number (token : Token) : Double :=
  (Double.ofText? token.text.toList).getD default

namespace Parser

variable
  (context : ParserContext)
  (depth : Nat)
  (nested : Option (Level → Parser Expr))

/-- Go one deeper, which an error at the given offset refuses when there is no
parser for that depth. -/
def deeper (position : Int) (rest : List Token) :
    Except Stop (Level → Parser Expr) :=
  match nested with
  | some inside => .ok inside
  | none =>
      context.stop
        (.expressionTooDeep (depth + 1) context.limits.expressionDepth) position
        ⟨rest, depth + 1⟩

/-- The expression behind an opening parenthesis, with the closing one. -/
def parenthesized (position : Int) (rest : List Token) : Reading Expr :=
  match deeper context depth nested position rest with
  | .error stop => .error stop
  | .ok inside =>
    match (inside .whole).run rest with
    | .error stop => .error stop
    | .ok (expr, after) =>
      match
        context.expect .closeParenthesis .closingParenthesis (depth + 1) after
      with
      | .error stop => .error stop
      | .ok (_, last) => .ok (expr, last)

/-- The call of a function whose name and opening parenthesis were read. -/
def called (name : Token) (rest : List Token) : Reading Expr :=
  match deeper context depth nested name.position rest with
  | .error stop => .error stop
  | .ok inside =>
    match (arguments context (depth + 1) (inside .whole)).run rest with
    | .error stop => .error stop
    | .ok (arguments, last) => .ok (.call name.position name.text arguments, last)

/-- What begins with a name: a call, whose function must be known, a property,
or the name alone. -/
def named (name : Token) (rest : List Token) : Reading Expr :=
  match rest with
  | ⟨.openParenthesis, _, _⟩ :: after =>
      if context.known name.text then called context depth nested name after
      else
        context.stop (.unknownFunction name.text) name.position ⟨rest, depth⟩
  | ⟨.dot, _, _⟩ :: after =>
      match context.expect .name .propertyName depth after with
      | .error stop => .error stop
      | .ok (property, last) =>
          .ok (.access name.position name.text property.text, last)
  | _ => .ok (.reference name.position name.text, rest)

theorem parenthesized_shorter
    {position : Int}
    {tokens rest : List Token}
    {result : Expr}
    (read : parenthesized context depth nested position tokens = .ok (result, rest)) :
    rest.length < tokens.length := by
  unfold parenthesized at read
  split at read
  · simp at read
  · next inside _ =>
      split at read
      · simp at read
      · next insideRead =>
          split at read
          · simp at read
          · next closed =>
              have progress := (inside .whole).shorter insideRead
              have further := ParserContext.expect_shorter closed
              cases read
              omega

theorem called_shorter
    {name : Token}
    {tokens rest : List Token}
    {result : Expr}
    (read : called context depth nested name tokens = .ok (result, rest)) :
    rest.length < tokens.length := by
  unfold called at read
  split at read
  · simp at read
  · next inside _ =>
      split at read
      · simp at read
      · next listRead =>
          have progress :=
            (arguments context (depth + 1) (inside .whole)).shorter listRead
          cases read
          exact progress

theorem named_length_le
    {name : Token}
    {tokens rest : List Token}
    {result : Expr}
    (read : named context depth nested name tokens = .ok (result, rest)) :
    rest.length ≤ tokens.length := by
  unfold named at read
  split at read
  · split at read
    · have progress := called_shorter context depth nested read
      simp only [List.length_cons]
      omega
    · simp [ParserContext.stop] at read
  · split at read
    · simp at read
    · next propertyRead =>
        have progress := ParserContext.expect_shorter propertyRead
        cases read
        simp only [List.length_cons]
        omega
  · cases read
    exact Nat.le_refl _

/-- An operand that is no negation. -/
def primary : Parser Expr where
  run tokens :=
    match tokens with
    | [] => context.stop .unexpectedEnd context.ending ⟨[], depth⟩
    | token :: rest =>
      match token.kind with
      | .openParenthesis =>
          parenthesized context depth nested token.position rest
      | .string => .ok (.string token.position token.text, rest)
      | .number => .ok (.number token.position token.number, rest)
      | .boolean value => .ok (.boolean token.position value, rest)
      | .null => .ok (.null token.position, rest)
      | .name => named context depth nested token rest
      | _ =>
          context.stop (.unexpectedToken token.text) token.position
            ⟨token :: rest, depth⟩
  shorter {_ _ _} read := by
    split at read
    · simp [ParserContext.stop] at read
    · simp only [List.length_cons]
      split at read
      · have progress := parenthesized_shorter context depth nested read
        omega
      · cases read; omega
      · cases read; omega
      · cases read; omega
      · cases read; omega
      · have progress := named_length_le context depth nested read
        omega
      · simp [ParserContext.stop] at read

/-- An operand: negations bind tighter than every other operator. -/
def unary : Parser Expr where
  run tokens :=
    match tokens with
    | ⟨.negation, _, position⟩ :: rest =>
      match deeper context depth nested position rest with
      | .error stop => .error stop
      | .ok inside =>
        match (inside .operand).run rest with
        | .error stop => .error stop
        | .ok (operand, last) => .ok (.unary position .negation operand, last)
    | _ => (primary context depth nested).run tokens
  shorter {_ _ _} read := by
    split at read
    · split at read
      · simp at read
      · next inside _ =>
          split at read
          · simp at read
          · next operandRead =>
              have progress := (inside .operand).shorter operandRead
              cases read
              simp only [List.length_cons]
              omega
    · exact (primary context depth nested).shorter read

/-- What is parsed at a level, with what is parsed one deeper. -/
def atLevel : Level → Parser Expr
  | .operand => unary context depth nested
  | .whole =>
      chain .disjunction .disjunction
        (chain .conjunction .conjunction
          (comparison (unary context depth nested)))

/-- What is parsed at a level, where one may go deeper a number of times. -/
def within : (allowance depth : Nat) → Level → Parser Expr
  | 0, depth => atLevel context depth none
  | allowance + 1, depth =>
      atLevel context depth (some (within allowance (depth + 1)))

end Parser

namespace Expr

/-- The expression that all the tokens from a cursor on make up. -/
def parseFrom (context : ParserContext) (cursor : Cursor) : Except Stop Expr :=
  match cursor.tokens with
  | [] => context.stop .emptyExpression 0 cursor
  | first :: others =>
    let allowance := context.limits.expressionDepth - cursor.depth
    match
      (Parser.within context allowance cursor.depth .whole).run (first :: others)
    with
    | .error stop => .error stop
    | .ok (expr, []) => .ok expr
    | .ok (_, token :: rest) =>
        context.stop (.unexpectedToken token.text) token.position
          ⟨token :: rest, cursor.depth⟩

/-- The expression that a text writes. The functions that it calls must be
known. -/
def parse (limits : Limits) (known : String → Bool) (source : String) :
    Except Error Expr :=
  match Token.scan limits source with
  | .error error => .error error
  | .ok tokens =>
    match parseFrom { source, known, limits } { tokens, depth := 0 } with
    | .error stop => .error stop.error
    | .ok expr => .ok expr

end Expr
end Templating
