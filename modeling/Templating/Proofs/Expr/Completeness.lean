import Templating.Expr.Parser.Levels
import Templating.Proofs.Expr.Unambiguity

/-!
# What is derived is read

Before tokens that may stand behind it, a derivation that is admitted is read: the
parser of its symbol takes exactly its tokens and returns its meaning. Each parser
looks at one token to decide whether to go on, and the tokens that may stand
behind are those at which it does not.
-/

namespace Templating
namespace Grammar

variable (context : ParserContext)

/-- What is parsed one deeper under an allowance. -/
def nestedAt : (allowance depth : Nat) → Option (Level → Parser Expr)
  | 0, _ => none
  | allowance + 1, depth => some (Parser.within context allowance (depth + 1))

/-- The parser of a rank. -/
def parserAt (allowance depth : Nat) (rank : Rank) : Parser Expr :=
  let nested := nestedAt context allowance depth
  let operand := Parser.unary context depth nested
  let conjunction :=
    Parser.chain .conjunction .conjunction (Parser.comparison operand)
  match rank with
  | .primary => .primary context depth nested
  | .operand => operand
  | .comparison => .comparison operand
  | .chain .conjunction => conjunction
  | .chain .disjunction => .chain .disjunction .disjunction conjunction

theorem parserAt_chain (allowance depth : Nat) (connective : Connective) :
    parserAt context allowance depth (.chain connective) =
      .chain connective.kind connective.operator
        (parserAt context allowance depth connective.operand) := by
  cases connective <;> rfl

theorem within_whole (allowance depth : Nat) :
    Parser.within context allowance depth .whole =
      parserAt context allowance depth (.chain .disjunction) := by
  cases allowance <;> rfl

theorem within_operand (allowance depth : Nat) :
    Parser.within context allowance depth .operand =
      parserAt context allowance depth .operand := by
  cases allowance <;> rfl

theorem chainFrom_of_read
    {kind : TokenKind}
    {operand : Parser Expr}
    {token : Token}
    {right : Expr}
    {rest last : List Token}
    (operator : BinaryOperator)
    (left : Expr)
    (isKind : token.kind = kind)
    (read : operand.run rest = .ok (right, last)) :
    Parser.chainFrom kind operator operand left (token :: rest) =
      Parser.chainFrom kind operator operand
        (.binary token.position operator left right) last := by
  rw [Parser.chainFrom, if_pos isKind]
  split
  · next failed =>
      rw [read] at failed
      cases failed
  · next succeeded =>
      rw [read] at succeeded
      cases succeeded
      rfl

theorem argumentsFrom_of_read
    {context : ParserContext}
    {depth : Nat}
    {expression : Parser Expr}
    {argument : Expr}
    {others : List Expr}
    {comma : Leaf}
    {rest last final : List Token}
    (read : expression.run rest = .ok (argument, last))
    (readOthers :
      Parser.argumentsFrom context depth expression last = .ok (others, final)) :
    Parser.argumentsFrom context depth expression (comma.token .comma :: rest) =
      .ok (argument :: others, final) := by
  rw [Parser.argumentsFrom]
  simp only [Leaf.token_kind]
  split
  · next failed =>
      rw [read] at failed
      cases failed
  · next succeeded =>
      rw [read] at succeeded
      cases succeeded
      rw [readOthers]

/-- The parser of a symbol takes the tokens of a derivation from the front and
returns its meaning. That of an argument list takes the closing parenthesis as
well. -/
def ReadsAt
    (allowance depth : Nat) :
    {symbol : Symbol} → Derivation symbol → List Token → Prop
  | .expression rank, derivation, rest =>
      (parserAt context allowance depth rank).run (derivation.tokens ++ rest) =
        .ok (derivation.meaning, rest)
  | .links connective, derivation, rest =>
      ∀ left : Expr,
        Parser.chainFrom connective.kind connective.operator
            (parserAt context allowance depth connective.operand) left
            (derivation.tokens ++ rest) =
          .ok (derivation.meaning left, rest)
  | .arguments, derivation, rest =>
      ∀ (closing : Leaf) (last : List Token),
        rest = closing.token .closeParenthesis :: last →
          (Parser.arguments context depth
              (parserAt context allowance depth (.chain .disjunction))).run
              (derivation.tokens ++ rest) =
            .ok (derivation.meaning, last)
  | .furtherArguments, derivation, rest =>
      ∀ (closing : Leaf) (last : List Token),
        rest = closing.token .closeParenthesis :: last →
          Parser.argumentsFrom context depth
              (parserAt context allowance depth (.chain .disjunction))
              (derivation.tokens ++ rest) =
            .ok (derivation.meaning, last)

/-- A derivation is read wherever it is admitted. -/
def Reads {symbol : Symbol} (derivation : Derivation symbol) : Prop :=
  ∀ (allowance depth : Nat) (rest : List Token),
    derivation.Admitted context.known allowance →
    symbol.Precedes rest →
      ReadsAt context allowance depth derivation rest

variable {context}

namespace Reads

theorem chain
    {connective : Connective}
    {first : Derivation (.expression connective.operand)}
    {links : Derivation (.links connective)}
    (firstReads : Reads context first)
    (linksReads : Reads context links) :
    Reads context (.chain first links) := by
  intro allowance depth rest admitted behind
  rw [Derivation.admitted_chain] at admitted
  have readFirst :=
    firstReads allowance depth (links.tokens ++ rest) admitted.1
      (links.precedes_links behind.links)
  have readLinks :=
    linksReads allowance depth rest admitted.2 behind.links first.meaning
  simp only [ReadsAt] at readFirst ⊢
  rw [parserAt_chain]
  simp only [Parser.chain, Derivation.tokens, List.append_assoc, readFirst]
  exact readLinks

theorem noLink {connective : Connective} :
    Reads context (@Derivation.noLink connective) := by
  intro allowance depth rest admitted behind left
  cases rest with
  | nil =>
      simp only [Derivation.tokens, List.append_nil]
      rw [Parser.chainFrom]
      rfl
  | cons token rest =>
      have tight := connective.strength_kind.1
      have other : token.kind ≠ connective.kind := by
        intro isKind
        simp only [Symbol.Precedes, isKind] at behind
        omega
      simp only [Derivation.tokens, List.nil_append]
      rw [Parser.chainFrom, if_neg other]
      rfl

theorem link
    {connective : Connective}
    {operator : Leaf}
    {operand : Derivation (.expression connective.operand)}
    {links : Derivation (.links connective)}
    (operandReads : Reads context operand)
    (linksReads : Reads context links) :
    Reads context (.link operator operand links) := by
  intro allowance depth rest admitted behind left
  rw [Derivation.admitted_link] at admitted
  have readOperand :=
    operandReads allowance depth (links.tokens ++ rest) admitted.1
      (links.precedes_links behind)
  have readLinks := linksReads allowance depth rest admitted.2 behind
  simp only [ReadsAt] at readOperand readLinks
  simp only [Derivation.tokens, List.cons_append, List.append_assoc]
  rw [chainFrom_of_read _ _ (Leaf.token_kind ..) readOperand]
  exact readLinks _

theorem single
    {operand : Derivation (.expression .operand)}
    (operandReads : Reads context operand) :
    Reads context (.single operand) := by
  intro allowance depth rest admitted behind
  rw [Derivation.admitted_single] at admitted
  have readOperand :=
    operandReads allowance depth rest admitted behind.ofComparison
  simp only [ReadsAt, parserAt, Parser.comparison, Derivation.tokens]
    at readOperand ⊢
  simp only [readOperand]
  cases rest with
  | nil => rfl
  | cons token rest =>
      dsimp only
      split
      · next relation isRelation =>
          simp [Symbol.Precedes, isRelation, strength, Rank.strength] at behind
      · rfl

theorem compared
    {left right : Derivation (.expression .operand)}
    {relation : Relation}
    {operator : Leaf}
    (leftReads : Reads context left)
    (rightReads : Reads context right) :
    Reads context (.compared left relation operator right) := by
  intro allowance depth rest admitted behind
  rw [Derivation.admitted_compared] at admitted
  have readLeft :=
    leftReads allowance depth
      (operator.token (.relation relation) :: (right.tokens ++ rest)) admitted.1
      (Symbol.precedes_relation ..).1
  have readRight :=
    rightReads allowance depth rest admitted.2 behind.ofComparison
  simp only [ReadsAt, parserAt] at readLeft readRight ⊢
  simp only [Parser.comparison, Derivation.tokens, List.append_assoc,
    List.cons_append, readLeft, Leaf.token_kind, readRight]
  rfl

theorem negation
    {operator : Leaf}
    {operand : Derivation (.expression .operand)}
    (operandReads : Reads context operand) :
    Reads context (.negation operator operand) := by
  intro allowance depth rest admitted behind
  rw [Derivation.admitted_negation] at admitted
  obtain ⟨inside, rfl, admitted⟩ := admitted
  have readOperand := operandReads inside (depth + 1) rest admitted behind
  simp only [ReadsAt, ← within_operand] at readOperand
  simp only [ReadsAt, parserAt, Parser.unary, Derivation.tokens, List.cons_append,
    Leaf.token, nestedAt, Parser.deeper, readOperand]
  rfl

theorem primary
    {inner : Derivation (.expression .primary)}
    (innerReads : Reads context inner) :
    Reads context (.primary inner) := by
  intro allowance depth rest admitted behind
  rw [Derivation.admitted_primary] at admitted
  have readInner := innerReads allowance depth rest admitted behind.ofOperand
  simp only [ReadsAt, parserAt, Parser.unary, Derivation.tokens] at readInner ⊢
  split
  · next text position others isNegation =>
      exact absurd isNegation
        (inner.tokens_ne_negation rest ⟨text, position⟩ others)
  · exact readInner

theorem parenthesized
    {opening closing : Leaf}
    {inner : Derivation whole}
    (innerReads : Reads context inner) :
    Reads context (.parenthesized opening inner closing) := by
  intro allowance depth rest admitted behind
  rw [Derivation.admitted_parenthesized] at admitted
  obtain ⟨inside, rfl, admitted⟩ := admitted
  have readInner :=
    innerReads inside (depth + 1) (closing.token .closeParenthesis :: rest)
      admitted (whole_precedes_closing closing rest)
  simp only [ReadsAt, ← within_whole] at readInner
  simp only [ReadsAt, parserAt, Parser.primary, Derivation.tokens, List.cons_append,
    List.append_assoc, List.nil_append, Leaf.token_kind, Parser.parenthesized,
    Parser.deeper, nestedAt, readInner, ParserContext.expect, if_true]
  rfl

theorem literal (constant : Literal) (leaf : Leaf) :
    Reads context (.literal constant leaf) := by
  intro allowance depth rest admitted behind
  cases constant <;> rfl

/-- The three forms that begin with a name are told apart by the token behind
it. -/
theorem call
    {name opening closing : Leaf}
    {arguments : Derivation .arguments}
    (argumentsRead : Reads context arguments) :
    Reads context (.call name opening arguments closing) := by
  intro allowance depth rest admitted behind
  rw [Derivation.admitted_call] at admitted
  obtain ⟨known, inside, rfl, admitted⟩ := admitted
  have readArguments :=
    argumentsRead inside (depth + 1) (closing.token .closeParenthesis :: rest)
      admitted (arguments_precede_closing closing rest) closing rest rfl
  rw [← within_whole] at readArguments
  simp only [ReadsAt, parserAt, Parser.primary, Derivation.tokens, List.cons_append,
    List.append_assoc, List.nil_append, Leaf.token, Parser.named, known, if_true,
    Parser.called, Parser.deeper, nestedAt] at readArguments ⊢
  rw [readArguments]
  rfl

theorem access (object dot property : Leaf) :
    Reads context (.access object dot property) := by
  intro allowance depth rest admitted behind
  simp only [ReadsAt, parserAt, Parser.primary, Derivation.tokens, List.cons_append,
    List.nil_append, Leaf.token, Parser.named, ParserContext.expect, if_true]
  rfl

theorem reference (name : Leaf) : Reads context (.reference name) := by
  intro allowance depth rest admitted behind
  simp only [ReadsAt, parserAt, Parser.primary, Derivation.tokens, List.cons_append,
    List.nil_append, Leaf.token_kind, Parser.named]
  split
  · simp [Symbol.Precedes, strength, Rank.strength] at behind
  · simp [Symbol.Precedes, strength, Rank.strength] at behind
  · rfl

theorem noArgument : Reads context .noArgument := by
  intro allowance depth rest admitted behind closing last isClosing
  subst isClosing
  rfl

theorem firstArgument
    {argument : Derivation whole}
    {further : Derivation .furtherArguments}
    (argumentReads : Reads context argument)
    (furtherReads : Reads context further) :
    Reads context (.firstArgument argument further) := by
  intro allowance depth rest admitted behind closing last isClosing
  rw [Derivation.admitted_firstArgument] at admitted
  have readArgument :=
    argumentReads allowance depth (further.tokens ++ rest) admitted.1
      (further.precedes_further behind.further)
  have readFurther :=
    furtherReads allowance depth rest admitted.2 behind.further closing last isClosing
  simp only [ReadsAt] at readArgument
  simp only [Parser.arguments, Derivation.tokens, List.append_assoc]
  split
  · next text position others isClosed =>
      have begins := argument.not_precedes_arguments (further.tokens ++ rest)
      rw [isClosed] at begins
      exact absurd rfl begins
  · simp only [readArgument, readFurther]
    rfl

theorem noFurtherArgument : Reads context .noFurtherArgument := by
  intro allowance depth rest admitted behind closing last isClosing
  subst isClosing
  rw [Derivation.tokens, List.nil_append, Parser.argumentsFrom]
  rfl

theorem furtherArgument
    {comma : Leaf}
    {argument : Derivation whole}
    {further : Derivation .furtherArguments}
    (argumentReads : Reads context argument)
    (furtherReads : Reads context further) :
    Reads context (.furtherArgument comma argument further) := by
  intro allowance depth rest admitted behind closing last isClosing
  rw [Derivation.admitted_furtherArgument] at admitted
  have readArgument :=
    argumentReads allowance depth (further.tokens ++ rest) admitted.1
      (further.precedes_further behind)
  have readFurther :=
    furtherReads allowance depth rest admitted.2 behind closing last isClosing
  simp only [Derivation.tokens, List.cons_append, List.append_assoc]
  exact argumentsFrom_of_read readArgument readFurther

end Reads

theorem Derivation.reads {symbol : Symbol} (derivation : Derivation symbol) :
    Reads context derivation := by
  induction derivation with
  | chain first links first_ih links_ih => exact .chain first_ih links_ih
  | noLink => exact .noLink
  | link operator operand links operand_ih links_ih =>
      exact .link operand_ih links_ih
  | single operand operand_ih => exact .single operand_ih
  | compared left relation operator right left_ih right_ih =>
      exact .compared left_ih right_ih
  | negation operator operand operand_ih => exact .negation operand_ih
  | primary inner inner_ih => exact .primary inner_ih
  | parenthesized opening inner closing inner_ih => exact .parenthesized inner_ih
  | literal constant leaf => exact .literal constant leaf
  | call name opening arguments closing arguments_ih => exact .call arguments_ih
  | access object dot property => exact .access object dot property
  | reference name => exact .reference name
  | noArgument => exact .noArgument
  | firstArgument argument further argument_ih further_ih =>
      exact .firstArgument argument_ih further_ih
  | noFurtherArgument => exact .noFurtherArgument
  | furtherArgument comma argument further argument_ih further_ih =>
      exact .furtherArgument argument_ih further_ih

/-- The tokens of a whole expression are read to their end. -/
theorem within_run_of_admitted
    (derivation : Derivation whole)
    {allowance : Nat}
    (admitted : derivation.Admitted context.known allowance)
    (depth : Nat) :
    (Parser.within context allowance depth .whole).run derivation.tokens =
      .ok (derivation.meaning, []) := by
  have read := derivation.reads allowance depth [] admitted (Symbol.precedes_nil _)
  simp only [ReadsAt, List.append_nil, ← within_whole] at read
  exact read

end Grammar
end Templating
