import Templating.Expr.Parser.Levels
import Templating.Proofs.Expr.Grammar

/-!
# What the parsers read is derived

Every parser returns the meaning of a derivation whose tokens it has taken from
the front, and a stop of a parser carries an error of a rejected expression. Below
a negation, and inside parentheses and argument lists, a parser with one less of
the allowance reads, and what it derives is admitted with one less as well.
-/

namespace Templating
namespace Grammar

/-- The leaf that a token is. -/
def Leaf.of (token : Token) : Leaf := ⟨token.text, token.position⟩

theorem Leaf.token_of
    {token : Token}
    {kind : TokenKind}
    (isKind : token.kind = kind) :
    (Leaf.of token).token kind = token := by
  subst isKind
  rfl

/-- A result is as it should be, and a stop carries an error of a rejected
expression. -/
def Sound {α : Type} (derived : α → List Token → Prop) : Reading α → Prop
  | .ok (result, rest) => derived result rest
  | .error stop => stop.error.IsParse

/-- Whatever goes on with a sound reading passes its stop on, or goes on with
what was derived. -/
@[elab_as_elim]
theorem Sound.elim
    {α : Type}
    {derived : α → List Token → Prop}
    {motive : Reading α → Prop}
    {reading : Reading α}
    (sound : Sound derived reading)
    (onStop : ∀ stop : Stop, stop.error.IsParse → motive (.error stop))
    (onResult : ∀ result rest, derived result rest → motive (.ok (result, rest))) :
    motive reading := by
  cases reading with
  | error stop => exact onStop stop sound
  | ok pair => exact onResult pair.1 pair.2 sound

theorem Sound.stop
    {α : Type}
    (derived : α → List Token → Prop)
    (context : ParserContext)
    (cause : ParseCause)
    (position : Int)
    (cursor : Cursor) :
    Sound derived (context.stop cause position cursor) :=
  trivial

variable (context : ParserContext) (allowance : Nat)

/-- The tokens up to the rest have an admitted derivation with this meaning. -/
def Derives
    (symbol : Symbol)
    (tokens : List Token)
    (meaning : symbol.Meaning)
    (rest : List Token) :
    Prop :=
  ∃ derivation : Derivation symbol,
    tokens = derivation.tokens ++ rest ∧
      derivation.meaning = meaning ∧
      derivation.Admitted context.known allowance

/-- The tokens up to the rest are links of a chain that extend an expression. -/
def Extends
    (connective : Connective)
    (left : Expr)
    (tokens : List Token)
    (result : Expr)
    (rest : List Token) :
    Prop :=
  ∃ links : Derivation (.links connective),
    tokens = links.tokens ++ rest ∧
      links.meaning left = result ∧
      links.Admitted context.known allowance

/-- The tokens up to the rest are arguments and the parenthesis that closes
them. -/
def Lists
    (symbol : Symbol)
    (tokens : List Token)
    (meaning : symbol.Meaning)
    (rest : List Token) :
    Prop :=
  ∃ closing : Leaf,
    Derives context allowance symbol tokens meaning
      (closing.token .closeParenthesis :: rest)

variable {context allowance}

theorem chainFrom_sound
    {connective : Connective}
    {operand : Parser Expr}
    (operandSound :
      ∀ tokens,
        Sound
          (Derives context allowance (.expression connective.operand) tokens)
          (operand.run tokens))
    (left : Expr)
    (tokens : List Token) :
    Sound (Extends context allowance connective left tokens)
      (Parser.chainFrom connective.kind connective.operator operand left tokens) := by
  fun_induction
      Parser.chainFrom connective.kind connective.operator operand left tokens with
  | case1 left => exact ⟨.noLink, rfl, rfl, by simp⟩
  | case2 left token rest isKind stop read =>
      have sound := operandSound rest
      rw [read] at sound
      exact sound
  | case3 left token rest isKind right after read inductionHypothesis =>
      have sound := operandSound rest
      rw [read] at sound
      obtain ⟨first, rfl, rfl, admitted⟩ := sound
      revert inductionHypothesis
      cases Parser.chainFrom connective.kind connective.operator operand
          (.binary token.position connective.operator left first.meaning) after with
      | error stop => exact id
      | ok pair =>
          rintro ⟨links, rfl, extended, linksAdmitted⟩
          refine ⟨.link (.of token) first links, ?_, extended, ?_⟩
          · simp [Derivation.tokens, Leaf.token_of isKind]
          · simp [admitted, linksAdmitted]
  | case4 left token rest isKind => exact ⟨.noLink, rfl, rfl, by simp⟩

theorem chain_sound
    (connective : Connective)
    {operand : Parser Expr}
    (operandSound :
      ∀ tokens,
        Sound
          (Derives context allowance (.expression connective.operand) tokens)
          (operand.run tokens))
    (tokens : List Token) :
    Sound (Derives context allowance (.expression (.chain connective)) tokens)
      ((Parser.chain connective.kind connective.operator operand).run tokens) := by
  simp only [Parser.chain]
  refine Sound.elim (operandSound tokens) (fun stop rejected => rejected) ?_
  rintro _ rest ⟨first, rfl, rfl, admitted⟩
  dsimp only
  refine Sound.elim (chainFrom_sound operandSound first.meaning rest)
    (fun stop rejected => rejected) ?_
  rintro _ last ⟨links, rfl, rfl, linksAdmitted⟩
  refine ⟨.chain first links, ?_, rfl, ?_⟩
  · simp [Derivation.tokens]
  · simp [admitted, linksAdmitted]

theorem comparison_sound
    {operand : Parser Expr}
    (operandSound :
      ∀ tokens,
        Sound (Derives context allowance (.expression .operand) tokens)
          (operand.run tokens))
    (tokens : List Token) :
    Sound (Derives context allowance (.expression .comparison) tokens)
      ((Parser.comparison operand).run tokens) := by
  simp only [Parser.comparison]
  refine Sound.elim (operandSound tokens) (fun stop rejected => rejected) ?_
  rintro _ rest ⟨left, rfl, rfl, admitted⟩
  have alone :
      Derives context allowance (.expression .comparison) (left.tokens ++ rest)
        left.meaning rest :=
    ⟨.single left, rfl, rfl, by simpa using admitted⟩
  cases rest with
  | nil => exact alone
  | cons token rest =>
      dsimp only
      split
      · next relation isRelation =>
          refine Sound.elim (operandSound rest) (fun stop rejected => rejected) ?_
          rintro _ last ⟨right, rfl, rfl, rightAdmitted⟩
          refine ⟨.compared left relation (.of token) right, ?_, rfl, ?_⟩
          · simp [Derivation.tokens, Leaf.token_of isRelation]
          · simp [admitted, rightAdmitted]
      · exact alone

theorem argumentsFrom_sound
    {expression : Parser Expr}
    (expressionSound :
      ∀ tokens,
        Sound (Derives context allowance whole tokens) (expression.run tokens))
    (depth : Nat)
    (tokens : List Token) :
    Sound (Lists context allowance .furtherArguments tokens)
      (Parser.argumentsFrom context depth expression tokens) := by
  fun_induction Parser.argumentsFrom context depth expression tokens with
  | case1 => exact Sound.stop ..
  | case2 token rest isClosing =>
      refine ⟨.of token, .noFurtherArgument, ?_, rfl, by simp⟩
      simp [Derivation.tokens, Leaf.token_of isClosing]
  | case3 token rest isComma stop read =>
      have sound := expressionSound rest
      rw [read] at sound
      exact sound
  | case4 token rest isComma argument after read stop others inductionHypothesis =>
      rw [others] at inductionHypothesis
      exact inductionHypothesis
  | case5 token rest isComma result after read more last others inductionHypothesis =>
      have sound := expressionSound rest
      rw [read] at sound
      obtain ⟨argument, rfl, rfl, admitted⟩ := sound
      rw [others] at inductionHypothesis
      obtain ⟨closing, further, rfl, rfl, furtherAdmitted⟩ := inductionHypothesis
      refine ⟨closing, .furtherArgument (.of token) argument further, ?_, rfl, ?_⟩
      · simp [Derivation.tokens, Leaf.token_of isComma]
      · simp [admitted, furtherAdmitted]
  | case6 => exact Sound.stop ..

theorem arguments_sound
    {expression : Parser Expr}
    (expressionSound :
      ∀ tokens,
        Sound (Derives context allowance whole tokens) (expression.run tokens))
    (depth : Nat)
    (tokens : List Token) :
    Sound (Lists context allowance .arguments tokens)
      ((Parser.arguments context depth expression).run tokens) := by
  simp only [Parser.arguments]
  split
  · next text position rest =>
      exact ⟨⟨text, position⟩, .noArgument, rfl, rfl, by simp⟩
  · refine Sound.elim (expressionSound tokens) (fun stop rejected => rejected) ?_
    rintro _ rest ⟨argument, rfl, rfl, admitted⟩
    dsimp only
    refine Sound.elim (argumentsFrom_sound expressionSound depth rest)
      (fun stop rejected => rejected) ?_
    rintro _ last ⟨closing, further, rfl, rfl, furtherAdmitted⟩
    refine ⟨closing, .firstArgument argument further, ?_, rfl, ?_⟩
    · simp [Derivation.tokens]
    · simp [admitted, furtherAdmitted]

theorem expect_sound
    (context : ParserContext)
    (kind : TokenKind)
    (expected : Expected)
    (depth : Nat)
    (tokens : List Token) :
    Sound (fun token rest => tokens = token :: rest ∧ token.kind = kind)
      (context.expect kind expected depth tokens) := by
  unfold ParserContext.expect
  cases tokens with
  | nil => exact Sound.stop ..
  | cons token rest =>
      dsimp only
      split
      · next isKind => exact ⟨rfl, isKind⟩
      · exact Sound.stop ..

/-- What is parsed one deeper, where the allowance has one more. -/
def SoundInside
    (context : ParserContext)
    (allowance : Nat)
    (nested : Option (Level → Parser Expr)) :
    Prop :=
  ∀ inside, nested = some inside →
    ∃ less, allowance = less + 1 ∧
      (∀ tokens,
        Sound (Derives context less (.expression .operand) tokens)
          ((inside .operand).run tokens)) ∧
      ∀ tokens,
        Sound (Derives context less whole tokens) ((inside .whole).run tokens)

section

variable {nested : Option (Level → Parser Expr)}

theorem parenthesized_sound
    (insideSound : SoundInside context allowance nested)
    (depth : Nat)
    {opening : Token}
    (isOpening : opening.kind = .openParenthesis)
    (rest : List Token) :
    Sound (Derives context allowance (.expression .primary) (opening :: rest))
      (Parser.parenthesized context depth nested opening.position rest) := by
  unfold Parser.parenthesized Parser.deeper
  cases isNested : nested with
  | none => exact Sound.stop ..
  | some inside =>
      obtain ⟨less, rfl, -, wholeSound⟩ := insideSound inside isNested
      dsimp only
      refine Sound.elim (wholeSound rest) (fun stop rejected => rejected) ?_
      rintro _ after ⟨inner, rfl, rfl, admitted⟩
      dsimp only
      refine Sound.elim
        (expect_sound context .closeParenthesis .closingParenthesis (depth + 1) after)
        (fun stop rejected => rejected) ?_
      rintro closing last ⟨rfl, isClosing⟩
      refine ⟨.parenthesized (.of opening) inner (.of closing), ?_, rfl, ?_⟩
      · simp [Derivation.tokens, Leaf.token_of isOpening, Leaf.token_of isClosing]
      · simp [Derivation.admitted_parenthesized, admitted]

theorem called_sound
    (insideSound : SoundInside context allowance nested)
    (depth : Nat)
    {name opening : Token}
    (isName : name.kind = .name)
    (known : context.known name.text = true)
    (isOpening : opening.kind = .openParenthesis)
    (rest : List Token) :
    Sound
      (Derives context allowance (.expression .primary) (name :: opening :: rest))
      (Parser.called context depth nested name rest) := by
  unfold Parser.called Parser.deeper
  cases isNested : nested with
  | none => exact Sound.stop ..
  | some inside =>
      obtain ⟨less, rfl, -, wholeSound⟩ := insideSound inside isNested
      dsimp only
      refine Sound.elim (arguments_sound wholeSound (depth + 1) rest)
        (fun stop rejected => rejected) ?_
      rintro _ last ⟨closing, arguments, rfl, rfl, admitted⟩
      refine ⟨.call (.of name) (.of opening) arguments closing, ?_, rfl, ?_⟩
      · simp [Derivation.tokens, Leaf.token_of isName, Leaf.token_of isOpening]
      · simp [Derivation.admitted_call, Leaf.of, known, admitted]

theorem named_sound
    (insideSound : SoundInside context allowance nested)
    (depth : Nat)
    {name : Token}
    (isName : name.kind = .name)
    (rest : List Token) :
    Sound (Derives context allowance (.expression .primary) (name :: rest))
      (Parser.named context depth nested name rest) := by
  unfold Parser.named
  split
  · next text position after =>
      split
      · next known => exact called_sound insideSound depth isName known rfl after
      · exact Sound.stop ..
  · next text position after =>
      refine Sound.elim (expect_sound context .name .propertyName depth after)
        (fun stop rejected => rejected) ?_
      rintro property last ⟨rfl, isProperty⟩
      refine
        ⟨.access (.of name) ⟨text, position⟩ (.of property), ?_, rfl, by simp⟩
      simp [Derivation.tokens, Leaf.token_of isName, Leaf.token_of isProperty]
      rfl
  · refine ⟨.reference (.of name), ?_, rfl, by simp⟩
    simp [Derivation.tokens, Leaf.token_of isName]

theorem primary_sound
    (insideSound : SoundInside context allowance nested)
    (depth : Nat)
    (tokens : List Token) :
    Sound (Derives context allowance (.expression .primary) tokens)
      ((Parser.primary context depth nested).run tokens) := by
  simp only [Parser.primary]
  cases tokens with
  | nil => exact Sound.stop ..
  | cons token rest =>
      have constant
          (literal : Literal)
          (isKind : token.kind = literal.kind) :
          Derives context allowance (.expression .primary) (token :: rest)
            (literal.expr (.of token)) rest := by
        refine ⟨.literal literal (.of token), ?_, rfl, by simp⟩
        simp [Derivation.tokens, Leaf.token_of isKind]
      dsimp only
      split
      · next isOpening => exact parenthesized_sound insideSound depth isOpening rest
      · next isString => exact constant .string isString
      · next isNumber => exact constant .number isNumber
      · next value isBoolean => exact constant (.boolean value) isBoolean
      · next isNull => exact constant .null isNull
      · next isName => exact named_sound insideSound depth isName rest
      · exact Sound.stop ..

theorem unary_sound
    (insideSound : SoundInside context allowance nested)
    (depth : Nat)
    (tokens : List Token) :
    Sound (Derives context allowance (.expression .operand) tokens)
      ((Parser.unary context depth nested).run tokens) := by
  simp only [Parser.unary]
  split
  · next text position rest =>
      unfold Parser.deeper
      cases isNested : nested with
      | none => exact Sound.stop ..
      | some inside =>
          obtain ⟨less, rfl, operandSound, -⟩ := insideSound inside isNested
          dsimp only
          refine Sound.elim (operandSound rest) (fun stop rejected => rejected) ?_
          rintro _ last ⟨operand, rfl, rfl, admitted⟩
          refine ⟨.negation ⟨text, position⟩ operand, rfl, rfl, ?_⟩
          simp [Derivation.admitted_negation, admitted]
  · refine Sound.elim (primary_sound insideSound depth tokens)
      (fun stop rejected => rejected) ?_
    rintro _ last ⟨inner, rfl, rfl, admitted⟩
    exact ⟨.primary inner, rfl, rfl, by simpa using admitted⟩

theorem atLevel_sound
    (insideSound : SoundInside context allowance nested)
    (depth : Nat)
    (tokens : List Token) :
    Sound (Derives context allowance whole tokens)
      ((Parser.atLevel context depth nested .whole).run tokens) :=
  chain_sound .disjunction
    (chain_sound .conjunction
      (comparison_sound (unary_sound insideSound depth))) tokens

end

/-- What is allowed below a level has one less at the next one. -/
theorem within_sound (context : ParserContext) (allowance depth : Nat) :
    (∀ tokens,
      Sound (Derives context allowance (.expression .operand) tokens)
        ((Parser.within context allowance depth .operand).run tokens)) ∧
    ∀ tokens,
      Sound (Derives context allowance whole tokens)
        ((Parser.within context allowance depth .whole).run tokens) := by
  induction allowance generalizing depth with
  | zero =>
      have nothing : SoundInside context 0 none := by
        intro inside isNested
        cases isNested
      exact ⟨unary_sound nothing depth, atLevel_sound nothing depth⟩
  | succ allowance inductionHypothesis =>
      have below :
          SoundInside context (allowance + 1)
            (some (Parser.within context allowance (depth + 1))) := by
        rintro inside ⟨⟩
        exact ⟨allowance, rfl, inductionHypothesis (depth + 1)⟩
      exact ⟨unary_sound below depth, atLevel_sound below depth⟩

end Grammar
end Templating
