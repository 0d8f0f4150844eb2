import Templating.Proofs.Expr.Parsing
import Templating.Proofs.Template.Names
import Templating.Registry

/-!
# The names that an expression reads

The names that a parsed expression reads are written in its text. Each of them is a token
of its own, so it is a name that a function can have as well.
-/

namespace Templating
namespace Token

/-- A token that is a name carries a name that a function can have. -/
theorem Lexical.isFunctionName_of_name
    {spelling text : List Char}
    (lexical : Lexical spelling .name text) :
    isFunctionName (String.ofList text) = true := by
  cases lexical with
  | operator isOperator => simp [operators] at isOperator
  | keyword isKeyword => simp [TokenKind.keywords] at isKeyword
  | name begins goesOn noKeyword =>
      simp only [isFunctionName, String.toList_ofList, begins, noKeyword,
        List.all_eq_true.2 goesOn]
      rfl

/-- Every name token of an expression carries a name that a function can have. -/
theorem isFunctionName_of_scanFrom
    {source : String}
    {position : Nat}
    {text : List Char}
    {tokens : List Token}
    (scanned : scanFrom source position text = .ok tokens) :
    ∀ token ∈ tokens, token.kind = .name → isFunctionName token.text = true := by
  fun_induction scanFrom source position text generalizing tokens with
  | case1 =>
      cases scanned
      simp
  | case2 _ _ _ _ inductionHypothesis => exact inductionHypothesis scanned
  | case3 => cases scanned
  | case4 position first rest _ found read inductionHypothesis =>
      obtain ⟨others, scannedOthers, made⟩ := (bind_eq_ok ..).1 scanned
      cases made
      refine List.forall_mem_cons.2 ⟨fun isName => ?_, inductionHypothesis scannedOthers⟩
      obtain ⟨more, behind, -, -, lexical⟩ := lexical_of_lexeme read
      dsimp only at isName
      rw [isName] at lexical
      exact lexical.isFunctionName_of_name

/-- One of several tokens is this name. -/
def Naming (tokens : List Token) (name : String) : Prop :=
  ∃ token ∈ tokens, token.kind = .name ∧ token.text = name

theorem Naming.subset
    {tokens others : List Token}
    {name : String}
    (naming : Naming tokens name)
    (among : tokens ⊆ others) :
    Naming others name := by
  obtain ⟨token, inside, isName, same⟩ := naming
  exact ⟨token, among inside, isName, same⟩

end Token

namespace Grammar

open Token (Naming)

/-- The names that are read in what a symbol means are names among tokens. The links of a
chain add names to those of the expression in front of them. -/
def Symbol.Names : (symbol : Symbol) → symbol.Meaning → List Token → Prop
  | .expression _, expr, tokens => ∀ name ∈ expr.names, Naming tokens name
  | .links _, extend, tokens =>
      ∀ left : Expr, ∀ name ∈ (extend left).names,
        name ∈ left.names ∨ Naming tokens name
  | .arguments, exprs, tokens => ∀ name ∈ Expr.namesAll exprs, Naming tokens name
  | .furtherArguments, exprs, tokens => ∀ name ∈ Expr.namesAll exprs, Naming tokens name

/-- What a derivation means reads names of the derivation. -/
theorem Derivation.names_meaning {symbol : Symbol} (derivation : Derivation symbol) :
    symbol.Names derivation.meaning derivation.tokens := by
  induction derivation with
  | chain first links firstHypothesis linksHypothesis =>
      intro name inside
      rcases linksHypothesis _ name inside with inFirst | naming
      · exact (firstHypothesis name inFirst).subset (List.subset_append_left ..)
      · exact naming.subset (List.subset_append_right ..)
  | noLink => exact fun left name inside => .inl inside
  | @link connective operator operand links operandHypothesis linksHypothesis =>
      intro left name inside
      rcases linksHypothesis _ name inside with earlier | naming
      · rcases List.mem_append.1 earlier with inLeft | inOperand
        · exact .inl inLeft
        · have naming : Naming operand.tokens name := by
            cases connective <;> exact operandHypothesis name inOperand
          exact .inr (naming.subset (by simp))
      · exact .inr (naming.subset (by simp))
  | single operand operandHypothesis => exact operandHypothesis
  | compared left relation operator right leftHypothesis rightHypothesis =>
      intro name inside
      rcases List.mem_append.1 inside with inLeft | inRight
      · exact (leftHypothesis name inLeft).subset (by simp)
      · exact (rightHypothesis name inRight).subset (by simp)
  | negation operator operand operandHypothesis =>
      exact fun name inside => (operandHypothesis name inside).subset (by simp)
  | primary inner innerHypothesis => exact innerHypothesis
  | parenthesized opening inner closing innerHypothesis =>
      exact fun name inside => (innerHypothesis name inside).subset (by simp)
  | literal constant leaf => cases constant <;> exact fun name inside => by cases inside
  | call name opening arguments closing argumentsHypothesis =>
      exact fun other inside =>
        (argumentsHypothesis other inside).subset fun token among => by simp [among]
  | access object dot property =>
      intro name inside
      cases List.mem_singleton.1 inside
      exact ⟨object.token .name, by simp, rfl, rfl⟩
  | reference name =>
      intro other inside
      cases List.mem_singleton.1 inside
      exact ⟨name.token .name, by simp, rfl, rfl⟩
  | noArgument => exact fun name inside => by cases inside
  | firstArgument argument further argumentHypothesis furtherHypothesis =>
      intro name inside
      rcases List.mem_append.1 inside with inArgument | inFurther
      · exact (argumentHypothesis name inArgument).subset (by simp)
      · exact (furtherHypothesis name inFurther).subset (by simp)
  | noFurtherArgument => exact fun name inside => by cases inside
  | furtherArgument comma argument further argumentHypothesis furtherHypothesis =>
      intro name inside
      rcases List.mem_append.1 inside with inArgument | inFurther
      · exact (argumentHypothesis name inArgument).subset (by simp)
      · exact (furtherHypothesis name inFurther).subset (by simp)

end Grammar

/-- The names that a parsed expression reads are names that functions can have. -/
theorem Expr.isFunctionName_of_parse
    {limits : Limits}
    {known : String → Bool}
    {source : String}
    {expr : Expr}
    (parsed : parse limits known source = .ok expr) :
    ∀ name ∈ expr.names, isFunctionName name = true := by
  obtain ⟨-, tokens, scanned, read⟩ := (parse_eq_ok ..).1 parsed
  obtain ⟨derivation, rfl, -, rfl⟩ := (Grammar.parseFrom_eq_ok ..).1 read
  intro name inside
  have names : ∀ name ∈ derivation.meaning.names, Token.Naming derivation.tokens name :=
    derivation.names_meaning
  obtain ⟨token, member, isName, rfl⟩ := names name inside
  exact Token.isFunctionName_of_scanFrom scanned token member isName

end Templating
