import Templating.Proofs.Expr.Parsing

/-!
# Operators without a meaning

A tree that a host builds by hand may hold operators that no evaluation knows. The
parser makes none of them: every operator comes from a production of the grammar.
-/

namespace Templating

mutual

/-- The operators of an expression that have no meaning. -/
def Expr.unknownOperators : Expr → List String
  | .call _ _ arguments => Expr.unknownOperatorsAll arguments
  | .unary _ _ operand => operand.unknownOperators
  | .binary _ (.other symbol) left right =>
      symbol :: (left.unknownOperators ++ right.unknownOperators)
  | .binary _ _ left right => left.unknownOperators ++ right.unknownOperators
  | _ => []

/-- The operators of several expressions that have no meaning. -/
def Expr.unknownOperatorsAll : List Expr → List String
  | [] => []
  | expr :: rest => expr.unknownOperators ++ Expr.unknownOperatorsAll rest

end

namespace Grammar

/-- All operators of what a symbol means have a meaning. The links of a chain keep
this of the expression in front of them. -/
def Symbol.KnowsOperators : (symbol : Symbol) → symbol.Meaning → Prop
  | .expression _, expr => expr.unknownOperators = []
  | .links _, extend =>
      ∀ left : Expr, left.unknownOperators = [] → (extend left).unknownOperators = []
  | .arguments, exprs => Expr.unknownOperatorsAll exprs = []
  | .furtherArguments, exprs => Expr.unknownOperatorsAll exprs = []

/-- What a derivation means has operators of the language only. -/
theorem Derivation.knowsOperators {symbol : Symbol} (derivation : Derivation symbol) :
    symbol.KnowsOperators derivation.meaning := by
  induction derivation with
  | chain first links firstHypothesis linksHypothesis =>
      exact linksHypothesis _ firstHypothesis
  | noLink => exact fun _ known => known
  | @link connective operator operand links operandHypothesis linksHypothesis =>
      intro left known
      apply linksHypothesis
      cases connective with
      | disjunction => exact List.append_eq_nil_iff.2 ⟨known, operandHypothesis⟩
      | conjunction => exact List.append_eq_nil_iff.2 ⟨known, operandHypothesis⟩
  | single operand operandHypothesis => exact operandHypothesis
  | compared left relation operator right leftHypothesis rightHypothesis =>
      exact List.append_eq_nil_iff.2 ⟨leftHypothesis, rightHypothesis⟩
  | negation operator operand operandHypothesis => exact operandHypothesis
  | primary inner innerHypothesis => exact innerHypothesis
  | parenthesized opening inner closing innerHypothesis => exact innerHypothesis
  | literal constant leaf => cases constant <;> rfl
  | call name opening arguments closing argumentsHypothesis => exact argumentsHypothesis
  | access object dot property => rfl
  | reference name => rfl
  | noArgument => rfl
  | firstArgument argument further argumentHypothesis furtherHypothesis =>
      exact List.append_eq_nil_iff.2 ⟨argumentHypothesis, furtherHypothesis⟩
  | noFurtherArgument => rfl
  | furtherArgument comma argument further argumentHypothesis furtherHypothesis =>
      exact List.append_eq_nil_iff.2 ⟨argumentHypothesis, furtherHypothesis⟩

end Grammar

/-- A parsed expression has operators of the language only. -/
theorem Expr.unknownOperators_of_parse
    {limits : Limits}
    {known : String → Bool}
    {source : String}
    {expr : Expr}
    (parsed : parse limits known source = .ok expr) :
    expr.unknownOperators = [] := by
  obtain ⟨-, tokens, -, read⟩ := (parse_eq_ok ..).1 parsed
  obtain ⟨derivation, -, -, rfl⟩ := (Grammar.parseFrom_eq_ok ..).1 read
  exact derivation.knowsOperators

end Templating
