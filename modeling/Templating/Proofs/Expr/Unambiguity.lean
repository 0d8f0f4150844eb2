import Templating.Proofs.Expr.Grammar

/-!
# Unambiguity

Tokens have at most one derivation. The statement that goes through by induction
is about derivations with further tokens behind them, on both sides: if these may
stand there, then the derivations are the same and so are the tokens behind.
-/

namespace Templating
namespace Grammar

theorem Leaf.token_injective
    {first second : Leaf}
    {kind : TokenKind}
    (same : first.token kind = second.token kind) :
    first = second := by
  cases first
  cases second
  simpa [Leaf.token] using same

@[simp] theorem Leaf.token_inj
    (first second : Leaf)
    (kind : TokenKind) :
    first.token kind = second.token kind ↔ first = second :=
  ⟨Leaf.token_injective, fun same => same ▸ rfl⟩

@[simp] theorem Leaf.token_kind (leaf : Leaf) (kind : TokenKind) :
    (leaf.token kind).kind = kind := rfl

/-- Tokens that begin with different kinds are different. -/
theorem Leaf.cons_ne
    {kind other : TokenKind}
    (different : kind ≠ other)
    (first second : Leaf)
    (rest others : List Token) :
    first.token kind :: rest ≠ second.token other :: others :=
  fun same => different (congrArg Token.kind (List.cons.inj same).1)

theorem Literal.kind_injective {first second : Literal}
    (same : first.kind = second.kind) : first = second := by
  cases first <;> cases second <;> simp_all [Literal.kind]

/-- The token of a literal is no other one. -/
theorem Literal.kind_spec (constant : Literal) :
    strength constant.kind = 4 ∧
      constant.kind ≠ .openParenthesis ∧
      constant.kind ≠ .name ∧
      constant.kind ≠ .negation := by
  cases constant <;> simp [Literal.kind, strength]

theorem Connective.strength_kind (connective : Connective) :
    strength connective.kind = (Rank.chain connective).strength + 1 ∧
      connective.operand.strength = (Rank.chain connective).strength + 1 := by
  cases connective <;> exact ⟨rfl, rfl⟩

/-- Everything may be the last. -/
theorem Symbol.precedes_nil (symbol : Symbol) : symbol.Precedes [] := by
  cases symbol <;> trivial

/-- What may stand behind a chain may stand behind its last operand. -/
theorem Symbol.Precedes.operand
    {connective : Connective}
    {rest : List Token}
    (behind : (Symbol.links connective).Precedes rest) :
    (Symbol.expression connective.operand).Precedes rest := by
  cases rest with
  | nil => trivial
  | cons token rest =>
      have tight := connective.strength_kind.2
      simp only [Symbol.Precedes] at behind ⊢
      omega

/-- What may stand behind a chain may stand behind its links. -/
theorem Symbol.Precedes.links
    {connective : Connective}
    {rest : List Token}
    (behind : (Symbol.expression (.chain connective)).Precedes rest) :
    (Symbol.links connective).Precedes rest := by
  cases rest with
  | nil => trivial
  | cons token rest => exact behind

/-- What may stand behind a comparison may stand behind its operands. -/
theorem Symbol.Precedes.ofComparison
    {rest : List Token}
    (behind : (Symbol.expression .comparison).Precedes rest) :
    (Symbol.expression .operand).Precedes rest := by
  cases rest with
  | nil => trivial
  | cons token rest => exact Nat.le_succ_of_le behind

/-- What may stand behind an operand may stand behind one that is no negation. -/
theorem Symbol.Precedes.ofOperand
    {rest : List Token}
    (behind : (Symbol.expression .operand).Precedes rest) :
    (Symbol.expression .primary).Precedes rest := by
  cases rest with
  | nil => trivial
  | cons token rest => exact behind

/-- What may stand behind all arguments may stand behind the last ones. -/
theorem Symbol.Precedes.further
    {rest : List Token}
    (behind : Symbol.arguments.Precedes rest) :
    Symbol.furtherArguments.Precedes rest := by
  cases rest with
  | nil => trivial
  | cons token rest => exact behind

theorem whole_precedes_closing (closing : Leaf) (rest : List Token) :
    whole.Precedes (closing.token .closeParenthesis :: rest) :=
  Nat.le_refl 0

theorem arguments_precede_closing (closing : Leaf) (rest : List Token) :
    Symbol.arguments.Precedes (closing.token .closeParenthesis :: rest) :=
  rfl

/-- A relation may stand behind an operand, but not behind a comparison. -/
theorem Symbol.precedes_relation
    (relation : Relation)
    (operator : Leaf)
    (rest : List Token) :
    (Symbol.expression .operand).Precedes
        (operator.token (.relation relation) :: rest) ∧
      ¬ (Symbol.expression .comparison).Precedes
        (operator.token (.relation relation) :: rest) := by
  simp [Symbol.Precedes, strength, Rank.strength]

/-- What only stands inside an operand does not stand behind one. -/
theorem Symbol.not_precedes_inside
    {kind : TokenKind}
    (inside : strength kind = 4)
    (leaf : Leaf)
    (rest : List Token) :
    ¬ (Symbol.expression .primary).Precedes (leaf.token kind :: rest) := by
  simp [Symbol.Precedes, inside, Rank.strength]

namespace Derivation

/-- Behind a chain there are no further links of it. -/
theorem links_not_precede
    {connective : Connective}
    (operator : Leaf)
    (operand : Derivation (.expression connective.operand))
    (links : Derivation (.links connective))
    (rest : List Token) :
    ¬ (Symbol.links connective).Precedes
      ((Derivation.link operator operand links).tokens ++ rest) := by
  have tight := connective.strength_kind.1
  simp only [tokens, List.cons_append, Symbol.Precedes, Leaf.token_kind]
  omega

/-- The links of a chain may stand behind an operand of it. -/
theorem precedes_links
    {connective : Connective}
    (links : Derivation (.links connective))
    {rest : List Token}
    (behind : (Symbol.links connective).Precedes rest) :
    (Symbol.expression connective.operand).Precedes (links.tokens ++ rest) := by
  cases links with
  | noLink => exact behind.operand
  | link operator operand links =>
      have tight := connective.strength_kind
      simp only [tokens, List.cons_append, Symbol.Precedes, Leaf.token_kind]
      omega

/-- A further argument begins with a comma, so that it may stand behind an
argument. -/
theorem precedes_further
    (further : Derivation .furtherArguments)
    {rest : List Token}
    (behind : Symbol.furtherArguments.Precedes rest) :
    whole.Precedes (further.tokens ++ rest) := by
  cases further with
  | noFurtherArgument =>
      cases rest with
      | nil => trivial
      | cons token rest =>
          simp only [Symbol.Precedes] at behind
          simp [tokens, Symbol.Precedes, behind, strength, Rank.strength]
  | furtherArgument comma argument further =>
      simp [tokens, Symbol.Precedes, strength, Rank.strength]

/-- An expression begins with a token that stands behind none. -/
theorem tokens_eq_cons
    {symbol : Symbol}
    (derivation : Derivation symbol)
    {rank : Rank}
    (expression : symbol = .expression rank) :
    ∃ token rest, derivation.tokens = token :: rest ∧ strength token.kind = 4 := by
  induction derivation generalizing rank with
  | chain first links firstBegins _ =>
      obtain ⟨token, rest, begins, loose⟩ := firstBegins rfl
      exact ⟨token, rest ++ links.tokens, by rw [tokens, begins]; rfl, loose⟩
  | single operand operandBegins => exact operandBegins rfl
  | compared left relation operator right leftBegins _ =>
      obtain ⟨token, rest, begins, loose⟩ := leftBegins rfl
      exact ⟨token, _, by rw [tokens, begins]; rfl, loose⟩
  | negation operator operand => exact ⟨_, _, rfl, rfl⟩
  | primary inner innerBegins => exact innerBegins rfl
  | parenthesized opening inner closing => exact ⟨_, _, rfl, rfl⟩
  | literal constant leaf => exact ⟨_, _, rfl, constant.kind_spec.1⟩
  | call name opening arguments closing => exact ⟨_, _, rfl, rfl⟩
  | access object dot property => exact ⟨_, _, rfl, rfl⟩
  | reference name => exact ⟨_, _, rfl, rfl⟩
  | _ => cases expression

/-- An operand that is no negation does not begin like one. -/
theorem tokens_ne_negation
    (inner : Derivation (.expression .primary))
    (rest : List Token)
    (operator : Leaf)
    (others : List Token) :
    inner.tokens ++ rest ≠ operator.token .negation :: others := by
  intro same
  cases inner with
  | literal constant leaf =>
      exact Leaf.cons_ne constant.kind_spec.2.2.2 _ _ _ _ same
  | _ => simp [tokens, Leaf.token] at same

/-- An argument does not begin like what stands behind the arguments. -/
theorem not_precedes_arguments
    {rank : Rank}
    (derivation : Derivation (.expression rank))
    (rest : List Token) :
    ¬ Symbol.arguments.Precedes (derivation.tokens ++ rest) := by
  obtain ⟨token, more, begins, loose⟩ := derivation.tokens_eq_cons rfl
  rw [begins]
  intro closing
  have kind : token.kind = .closeParenthesis := closing
  rw [kind] at loose
  cases loose

/-- A derivation is determined by its tokens, and so is where it ends. -/
def Decided {symbol : Symbol} (derivation : Derivation symbol) : Prop :=
  ∀ (other : Derivation symbol) {rest others : List Token},
    symbol.Precedes rest →
    symbol.Precedes others →
    derivation.tokens ++ rest = other.tokens ++ others →
      derivation = other ∧ rest = others

namespace Decided

theorem chain
    {connective : Connective}
    {first : Derivation (.expression connective.operand)}
    {links : Derivation (.links connective)}
    (firstDecided : first.Decided)
    (linksDecided : links.Decided) :
    (Derivation.chain first links).Decided := by
  intro other rest others behind behindOther same
  cases other with
  | chain first' links' =>
      simp only [tokens, List.append_assoc] at same
      obtain ⟨rfl, sameLinks⟩ :=
        firstDecided first' (links.precedes_links behind.links)
          (links'.precedes_links behindOther.links) same
      obtain ⟨rfl, sameRest⟩ :=
        linksDecided links' behind.links behindOther.links sameLinks
      exact ⟨rfl, sameRest⟩

theorem noLink {connective : Connective} :
    (@Derivation.noLink connective).Decided := by
  intro other rest others behind behindOther same
  cases other with
  | noLink => exact ⟨rfl, same⟩
  | link operator operand links =>
      rw [show rest = _ from same] at behind
      exact absurd behind (links_not_precede operator operand links others)

theorem link
    {connective : Connective}
    {operator : Leaf}
    {operand : Derivation (.expression connective.operand)}
    {links : Derivation (.links connective)}
    (operandDecided : operand.Decided)
    (linksDecided : links.Decided) :
    (Derivation.link operator operand links).Decided := by
  intro other rest others behind behindOther same
  cases other with
  | noLink =>
      rw [show others = _ from same.symm] at behindOther
      exact absurd behindOther (links_not_precede operator operand links rest)
  | link operator' operand' links' =>
      simp only [tokens, List.cons_append, List.append_assoc, List.cons.injEq,
        Leaf.token_inj] at same
      obtain ⟨rfl, same⟩ := same
      obtain ⟨rfl, sameLinks⟩ :=
        operandDecided operand' (links.precedes_links behind)
          (links'.precedes_links behindOther) same
      obtain ⟨rfl, sameRest⟩ :=
        linksDecided links' behind behindOther sameLinks
      exact ⟨rfl, sameRest⟩

/-- Behind a comparison stands no relation, so that one operand is not taken for
the left one of two. -/
theorem single
    {operand : Derivation (.expression .operand)}
    (operandDecided : operand.Decided) :
    (Derivation.single operand).Decided := by
  intro other rest others behind behindOther same
  cases other with
  | single operand' =>
      obtain ⟨rfl, sameRest⟩ :=
        operandDecided operand' behind.ofComparison behindOther.ofComparison same
      exact ⟨rfl, sameRest⟩
  | compared left relation operator right =>
      simp only [tokens, List.append_assoc, List.cons_append] at same
      obtain ⟨-, sameRest⟩ :=
        operandDecided left behind.ofComparison (Symbol.precedes_relation ..).1 same
      rw [sameRest] at behind
      exact absurd behind (Symbol.precedes_relation ..).2

theorem compared
    {left right : Derivation (.expression .operand)}
    {relation : Relation}
    {operator : Leaf}
    (leftDecided : left.Decided)
    (rightDecided : right.Decided) :
    (Derivation.compared left relation operator right).Decided := by
  intro other rest others behind behindOther same
  cases other with
  | single operand =>
      simp only [tokens, List.append_assoc, List.cons_append] at same
      obtain ⟨-, sameRest⟩ :=
        leftDecided operand (Symbol.precedes_relation ..).1 behindOther.ofComparison same
      rw [← sameRest] at behindOther
      exact absurd behindOther (Symbol.precedes_relation ..).2
  | compared left' relation' operator' right' =>
      simp only [tokens, List.append_assoc, List.cons_append] at same
      obtain ⟨rfl, sameRight⟩ :=
        leftDecided left' (Symbol.precedes_relation ..).1
          (Symbol.precedes_relation ..).1 same
      rw [List.cons.injEq] at sameRight
      obtain ⟨sameOperator, sameRight⟩ := sameRight
      have sameRelation := congrArg Token.kind sameOperator
      simp only [Leaf.token_kind, TokenKind.relation.injEq] at sameRelation
      subst sameRelation
      obtain rfl := Leaf.token_injective sameOperator
      obtain ⟨rfl, sameRest⟩ :=
        rightDecided right' behind.ofComparison behindOther.ofComparison sameRight
      exact ⟨rfl, sameRest⟩

theorem negation
    {operator : Leaf}
    {operand : Derivation (.expression .operand)}
    (operandDecided : operand.Decided) :
    (Derivation.negation operator operand).Decided := by
  intro other rest others behind behindOther same
  cases other with
  | negation operator' operand' =>
      simp only [tokens, List.cons_append, List.cons.injEq, Leaf.token_inj] at same
      obtain ⟨rfl, same⟩ := same
      obtain ⟨rfl, sameRest⟩ := operandDecided operand' behind behindOther same
      exact ⟨rfl, sameRest⟩
  | primary inner =>
      exact absurd same.symm (inner.tokens_ne_negation others operator _)

theorem primary
    {inner : Derivation (.expression .primary)}
    (innerDecided : inner.Decided) :
    (Derivation.primary inner).Decided := by
  intro other rest others behind behindOther same
  cases other with
  | negation operator operand =>
      exact absurd same (inner.tokens_ne_negation rest operator _)
  | primary inner' =>
      obtain ⟨rfl, sameRest⟩ :=
        innerDecided inner' behind.ofOperand behindOther.ofOperand same
      exact ⟨rfl, sameRest⟩

theorem parenthesized
    {opening closing : Leaf}
    {inner : Derivation whole}
    (innerDecided : inner.Decided) :
    (Derivation.parenthesized opening inner closing).Decided := by
  intro other rest others behind behindOther same
  cases other with
  | parenthesized opening' inner' closing' =>
      simp only [tokens, List.cons_append, List.append_assoc, List.cons.injEq,
        Leaf.token_inj, List.nil_append] at same
      obtain ⟨rfl, same⟩ := same
      obtain ⟨rfl, sameClosing⟩ :=
        innerDecided inner' (whole_precedes_closing closing rest)
          (whole_precedes_closing closing' others) same
      simp only [List.cons.injEq, Leaf.token_inj] at sameClosing
      obtain ⟨rfl, sameRest⟩ := sameClosing
      exact ⟨rfl, sameRest⟩
  | literal constant leaf =>
      exact absurd same.symm (Leaf.cons_ne constant.kind_spec.2.1 _ _ _ _)
  | _ => simp [tokens, Leaf.token] at same

theorem literal (constant : Literal) (leaf : Leaf) :
    (Derivation.literal constant leaf).Decided := by
  intro other rest others behind behindOther same
  cases other with
  | parenthesized opening inner closing =>
      exact absurd same (Leaf.cons_ne constant.kind_spec.2.1 _ _ _ _)
  | literal constant' leaf' =>
      have sameKind : constant.kind = constant'.kind :=
        congrArg Token.kind (List.cons.inj same).1
      obtain rfl := Literal.kind_injective sameKind
      simp only [tokens, List.cons_append, List.nil_append, List.cons.injEq,
        Leaf.token_inj] at same
      obtain ⟨rfl, sameRest⟩ := same
      exact ⟨rfl, sameRest⟩
  | _ => exact absurd same (Leaf.cons_ne constant.kind_spec.2.2.1 _ _ _ _)

/-- The three forms that begin with a name are told apart by the token behind
it. -/
theorem call
    {name opening closing : Leaf}
    {arguments : Derivation .arguments}
    (argumentsDecided : arguments.Decided) :
    (Derivation.call name opening arguments closing).Decided := by
  intro other rest others behind behindOther same
  cases other with
  | literal constant leaf =>
      exact absurd same.symm (Leaf.cons_ne constant.kind_spec.2.2.1 _ _ _ _)
  | call name' opening' arguments' closing' =>
      simp only [tokens, List.cons_append, List.append_assoc, List.cons.injEq,
        Leaf.token_inj, List.nil_append] at same
      obtain ⟨rfl, rfl, same⟩ := same
      obtain ⟨rfl, sameClosing⟩ :=
        argumentsDecided arguments' (arguments_precede_closing closing rest)
          (arguments_precede_closing closing' others) same
      simp only [List.cons.injEq, Leaf.token_inj] at sameClosing
      obtain ⟨rfl, sameRest⟩ := sameClosing
      exact ⟨rfl, sameRest⟩
  | reference name' =>
      simp only [tokens, List.cons_append, List.nil_append, List.cons.injEq] at same
      rw [← same.2] at behindOther
      exact absurd behindOther (Symbol.not_precedes_inside rfl _ _)
  | _ => simp [tokens, Leaf.token] at same

theorem access (object dot property : Leaf) :
    (Derivation.access object dot property).Decided := by
  intro other rest others behind behindOther same
  cases other with
  | literal constant leaf =>
      exact absurd same.symm (Leaf.cons_ne constant.kind_spec.2.2.1 _ _ _ _)
  | access object' dot' property' =>
      simp only [tokens, List.cons_append, List.nil_append, List.cons.injEq,
        Leaf.token_inj] at same
      obtain ⟨rfl, rfl, rfl, sameRest⟩ := same
      exact ⟨rfl, sameRest⟩
  | reference name =>
      simp only [tokens, List.cons_append, List.nil_append, List.cons.injEq] at same
      rw [← same.2] at behindOther
      exact absurd behindOther (Symbol.not_precedes_inside rfl _ _)
  | _ => simp [tokens, Leaf.token] at same

theorem reference (name : Leaf) : (Derivation.reference name).Decided := by
  intro other rest others behind behindOther same
  cases other with
  | parenthesized opening inner closing => simp [tokens, Leaf.token] at same
  | literal constant leaf =>
      exact absurd same.symm (Leaf.cons_ne constant.kind_spec.2.2.1 _ _ _ _)
  | reference name' =>
      simp only [tokens, List.cons_append, List.nil_append, List.cons.injEq,
        Leaf.token_inj] at same
      obtain ⟨rfl, sameRest⟩ := same
      exact ⟨rfl, sameRest⟩
  | _ =>
      simp only [tokens, List.cons_append, List.nil_append, List.cons.injEq] at same
      rw [same.2] at behind
      exact absurd behind (Symbol.not_precedes_inside rfl _ _)

theorem noArgument : Derivation.noArgument.Decided := by
  intro other rest others behind behindOther same
  cases other with
  | noArgument => exact ⟨rfl, same⟩
  | firstArgument argument further =>
      simp only [tokens, List.nil_append, List.append_assoc] at same
      rw [same] at behind
      exact absurd behind (argument.not_precedes_arguments _)

theorem firstArgument
    {argument : Derivation whole}
    {further : Derivation .furtherArguments}
    (argumentDecided : argument.Decided)
    (furtherDecided : further.Decided) :
    (Derivation.firstArgument argument further).Decided := by
  intro other rest others behind behindOther same
  cases other with
  | noArgument =>
      simp only [tokens, List.nil_append, List.append_assoc] at same
      rw [← same] at behindOther
      exact absurd behindOther (argument.not_precedes_arguments _)
  | firstArgument argument' further' =>
      simp only [tokens, List.append_assoc] at same
      obtain ⟨rfl, sameFurther⟩ :=
        argumentDecided argument' (further.precedes_further behind.further)
          (further'.precedes_further behindOther.further) same
      obtain ⟨rfl, sameRest⟩ :=
        furtherDecided further' behind.further behindOther.further sameFurther
      exact ⟨rfl, sameRest⟩

theorem noFurtherArgument : Derivation.noFurtherArgument.Decided := by
  intro other rest others behind behindOther same
  cases other with
  | noFurtherArgument => exact ⟨rfl, same⟩
  | furtherArgument comma argument further =>
      rw [show rest = _ from same] at behind
      cases behind

theorem furtherArgument
    {comma : Leaf}
    {argument : Derivation whole}
    {further : Derivation .furtherArguments}
    (argumentDecided : argument.Decided)
    (furtherDecided : further.Decided) :
    (Derivation.furtherArgument comma argument further).Decided := by
  intro other rest others behind behindOther same
  cases other with
  | noFurtherArgument =>
      rw [show others = _ from same.symm] at behindOther
      cases behindOther
  | furtherArgument comma' argument' further' =>
      simp only [tokens, List.cons_append, List.append_assoc, List.cons.injEq,
        Leaf.token_inj] at same
      obtain ⟨rfl, same⟩ := same
      obtain ⟨rfl, sameFurther⟩ :=
        argumentDecided argument' (further.precedes_further behind)
          (further'.precedes_further behindOther) same
      obtain ⟨rfl, sameRest⟩ :=
        furtherDecided further' behind behindOther sameFurther
      exact ⟨rfl, sameRest⟩

end Decided

theorem decided {symbol : Symbol} (derivation : Derivation symbol) :
    derivation.Decided := by
  induction derivation with
  | chain first links first_ih links_ih => exact .chain first_ih links_ih
  | noLink => exact .noLink
  | link operator operand links operand_ih links_ih =>
      exact .link operand_ih links_ih
  | single operand operand_ih => exact .single operand_ih
  | compared left relation operator right left_ih right_ih =>
      exact .compared left_ih right_ih
  | negation operator operand operand_ih => exact .negation operand_ih
  | primary inner inner_ih => exact .primary inner_ih
  | parenthesized opening inner closing inner_ih => exact .parenthesized inner_ih
  | literal constant leaf => exact .literal constant leaf
  | call name opening arguments closing arguments_ih => exact .call arguments_ih
  | access object dot property => exact .access object dot property
  | reference name => exact .reference name
  | noArgument => exact .noArgument
  | firstArgument argument further argument_ih further_ih =>
      exact .firstArgument argument_ih further_ih
  | noFurtherArgument => exact .noFurtherArgument
  | furtherArgument comma argument further argument_ih further_ih =>
      exact .furtherArgument argument_ih further_ih

/-- No tokens have two derivations. -/
theorem eq_of_tokens_eq
    {symbol : Symbol}
    (first second : Derivation symbol)
    (same : first.tokens = second.tokens) :
    first = second :=
  (first.decided second symbol.precedes_nil symbol.precedes_nil
    (congrArg (· ++ []) same)).1

end Derivation
end Grammar
end Templating
