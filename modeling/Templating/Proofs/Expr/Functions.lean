import Templating.Proofs.Expr.Calls
import Templating.Proofs.Expr.Parsing
import Templating.Proofs.Token.Order

/-!
# The functions that an expression calls

The calls of a parsed expression are those of its derivation: each of them calls a
known function, and they come in the order in which their names are written.
-/

namespace Templating
namespace Grammar

/-- The calls of what a symbol means. The links of a chain come with the calls that
they add behind those of the expression in front of them. -/
def Symbol.Calls : (symbol : Symbol) → symbol.Meaning → List CallSite → Prop
  | .expression _, expr, sites => expr.calls = sites
  | .links _, extend, sites => ∀ left : Expr, (extend left).calls = left.calls ++ sites
  | .arguments, exprs, sites => Expr.callsAll exprs = sites
  | .furtherArguments, exprs, sites => Expr.callsAll exprs = sites

/-- The calls of a derivation, each at the offset of its name. -/
@[simp] def Derivation.sites {symbol : Symbol} : Derivation symbol → List CallSite
  | .chain first links => first.sites ++ links.sites
  | .noLink => []
  | .link _ operand links => operand.sites ++ links.sites
  | .single operand => operand.sites
  | .compared left _ _ right => left.sites ++ right.sites
  | .negation _ operand => operand.sites
  | .primary inner => inner.sites
  | .parenthesized _ inner _ => inner.sites
  | .literal _ _ => []
  | .call name _ arguments _ => ⟨name.position, name.text⟩ :: arguments.sites
  | .access _ _ _ => []
  | .reference _ => []
  | .noArgument => []
  | .firstArgument argument further => argument.sites ++ further.sites
  | .noFurtherArgument => []
  | .furtherArgument _ argument further => argument.sites ++ further.sites

/-- What a derivation means has the calls of the derivation. -/
theorem Derivation.calls_meaning {symbol : Symbol} (derivation : Derivation symbol) :
    symbol.Calls derivation.meaning derivation.sites := by
  induction derivation with
  | chain first links firstHypothesis linksHypothesis =>
      exact (linksHypothesis _).trans (congrArg (· ++ links.sites) firstHypothesis)
  | noLink => exact fun left => (List.append_nil _).symm
  | @link connective operator operand links operandHypothesis linksHypothesis =>
      intro left
      have operandCalls : operand.meaning.calls = operand.sites := by
        cases connective <;> exact operandHypothesis
      refine (linksHypothesis _).trans ?_
      rw [Expr.calls, operandCalls, sites, List.append_assoc]
  | single operand operandHypothesis => exact operandHypothesis
  | compared left relation operator right leftHypothesis rightHypothesis =>
      exact congr (congrArg (· ++ ·) leftHypothesis) rightHypothesis
  | negation operator operand operandHypothesis => exact operandHypothesis
  | primary inner innerHypothesis => exact innerHypothesis
  | parenthesized opening inner closing innerHypothesis => exact innerHypothesis
  | literal constant leaf => cases constant <;> rfl
  | call name opening arguments closing argumentsHypothesis =>
      exact congrArg (List.cons _) argumentsHypothesis
  | access object dot property => rfl
  | reference name => rfl
  | noArgument => rfl
  | firstArgument argument further argumentHypothesis furtherHypothesis =>
      exact congr (congrArg (· ++ ·) argumentHypothesis) furtherHypothesis
  | noFurtherArgument => rfl
  | furtherArgument comma argument further argumentHypothesis furtherHypothesis =>
      exact congr (congrArg (· ++ ·) argumentHypothesis) furtherHypothesis

/-- The names of the calls are the names that are called. -/
theorem Derivation.map_function_sites {symbol : Symbol} (derivation : Derivation symbol) :
    derivation.sites.map CallSite.function = derivation.calls := by
  induction derivation <;> simp_all

/-- Each call is written where a token begins, in the order of the tokens. -/
theorem Derivation.sites_sublist {symbol : Symbol} (derivation : Derivation symbol) :
    (derivation.sites.map CallSite.position).Sublist
      (derivation.tokens.map fun token => (token.position : Int)) := by
  induction derivation with
  | chain first links firstHypothesis linksHypothesis =>
      simpa using firstHypothesis.append linksHypothesis
  | noLink => simp
  | link operator operand links operandHypothesis linksHypothesis =>
      simpa using (operandHypothesis.append linksHypothesis).cons _
  | single operand operandHypothesis => exact operandHypothesis
  | compared left relation operator right leftHypothesis rightHypothesis =>
      simpa using leftHypothesis.append (rightHypothesis.cons _)
  | negation operator operand operandHypothesis => exact operandHypothesis.cons _
  | primary inner innerHypothesis => exact innerHypothesis
  | parenthesized opening inner closing innerHypothesis =>
      simpa using (innerHypothesis.trans (List.sublist_append_left _ _)).cons _
  | literal constant leaf => simp
  | call name opening arguments closing argumentsHypothesis =>
      simp only [sites, tokens, List.map_cons, List.map_append]
      exact ((argumentsHypothesis.trans (List.sublist_append_left _ _)).cons _).cons_cons _
  | access object dot property => simp
  | reference name => simp
  | noArgument => simp
  | firstArgument argument further argumentHypothesis furtherHypothesis =>
      simpa using argumentHypothesis.append furtherHypothesis
  | noFurtherArgument => simp
  | furtherArgument comma argument further argumentHypothesis furtherHypothesis =>
      simpa using (argumentHypothesis.append furtherHypothesis).cons _

end Grammar

namespace Expr

/-- A parsed expression calls known functions only. -/
theorem known_of_parse
    {limits : Limits}
    {known : String → Bool}
    {source : String}
    {expr : Expr}
    (parsed : parse limits known source = .ok expr) :
    ∀ site ∈ expr.calls, known site.function = true := by
  obtain ⟨-, tokens, -, read⟩ := (parse_eq_ok ..).1 parsed
  obtain ⟨derivation, -, admitted, rfl⟩ := (Grammar.parseFrom_eq_ok ..).1 read
  have calls : derivation.meaning.calls = derivation.sites := derivation.calls_meaning
  intro site member
  refine admitted.calls site.function ?_
  rw [← derivation.map_function_sites, ← calls]
  exact List.mem_map_of_mem member

/-- The calls of a parsed expression come in the order in which they are written. -/
theorem calls_ordered_of_parse
    {limits : Limits}
    {known : String → Bool}
    {source : String}
    {expr : Expr}
    (parsed : parse limits known source = .ok expr) :
    expr.calls.Pairwise fun site other => site.position < other.position := by
  obtain ⟨-, tokens, scanned, read⟩ := (parse_eq_ok ..).1 parsed
  obtain ⟨derivation, rfl, -, rfl⟩ := (Grammar.parseFrom_eq_ok ..).1 read
  have calls : derivation.meaning.calls = derivation.sites := derivation.calls_meaning
  have ordered :
      (derivation.tokens.map fun token => (token.position : Int)).Pairwise (· < ·) := by
    refine List.pairwise_map.2 ((Token.pairwise_of_scanFrom scanned).2.imp ?_)
    intro token other before
    exact_mod_cast before
  rw [calls]
  exact List.pairwise_map.1 (ordered.sublist derivation.sites_sublist)

end Expr
end Templating
