import Templating.Proofs.Expr.Parsing
import Templating.Proofs.Render.Alike
import Templating.Proofs.Render.Calling
import Templating.Proofs.Token.Order

/-!
# Expressions bounded by their text

A parsed expression is no larger than the text that it was read from: it is no higher than
it has parts, it has no more parts than the text has tokens, and the text no more tokens than
characters. The limit on the depth of expressions bounds the negations and calls on every way
down the expression, and with them the calls in progress when it is evaluated.
-/

namespace Templating
namespace Expr

/-- The height, the parts, the tokens and the characters of a parsed expression are each at
most as many as the next ones, and the characters are within the limit. No way from the whole
of it down to a part without parts holds more negations and calls than the limit on the depth
of expressions. So whatever the functions, the limits and the variables are with which it is
evaluated, at every moment there are the calls in progress that were there before, and at
most so many more. -/
theorem bounded_by_source
    {limits : Limits}
    {known : String → Bool}
    {source : String}
    {expr : Expr}
    (parsed : parse limits known source = .ok expr) :
    (∃ tokens,
        Token.scan limits source = .ok tokens ∧
          expr.depth ≤ expr.count ∧ expr.count ≤ tokens.length ∧
            tokens.length ≤ source.length ∧ source.length ≤ limits.expressionLength) ∧
      (∀ way, expr.Way way → way.countP isEnclosing ≤ limits.expressionDepth) ∧
      ∀ {σ : Type} (environment : Environment σ) (session : Session σ),
        let watched := Watched.evaluate environment expr ⟨session, []⟩
        Watched.forget watched = Render.evaluate environment expr session ∧
          ∀ budget ∈ (stateAfter watched).seen,
            session.budget.callDepth ≤ budget.callDepth ∧
              budget.callDepth ≤ session.budget.callDepth + limits.expressionDepth := by
  obtain ⟨short, tokens, scanned, read⟩ := (parse_eq_ok ..).1 parsed
  obtain ⟨derivation, rfl, admitted, rfl⟩ := (Grammar.parseFrom_eq_ok ..).1 read
  obtain ⟨size, deep⟩ := derivation.bounded
  have nests : nesting derivation.meaning ≤ limits.expressionDepth :=
    Nat.le_trans deep admitted.nesting
  refine ⟨⟨_, (Token.scan_eq_scanFrom short).trans scanned, depth_le_count _, size, ?_, ?_⟩,
    fun way down => Nat.le_trans down.countP_le_nesting nests,
    fun environment session => ⟨?_, fun budget member => ?_⟩⟩
  · rw [← String.length_toList]
    exact Token.length_le_of_scanFrom scanned
  · rwa [← String.length_toList]
  · exact (Watched.forgetting environment).evaluate _ (fun _ _ => trivial) ⟨session, []⟩
  · obtain ⟨budgets, seen, inRange⟩ :=
      (Watched.evaluate_calling environment _ ⟨session, []⟩).climbs.weaken nests
    rw [seen, List.append_nil] at member
    exact inRange budget (List.mem_cons_of_mem _ member)

/-- A call in a negation takes all the depth that there is. -/
theorem bounded_by_source_negation :
    let limits : Limits :=
      { Limits.standard with expressionDepth := 2, expressionDepth_pos := by decide }
    let environment : Environment Unit := { limits, registry := .identity, source := "" }
    let argument := Expr.reference 7 "x"
    let call := Expr.call 4 "id" [argument]
    let expr := Expr.unary 0 .negation call
    parse limits environment.registry.has "not id(x)" = .ok expr ∧
      (∃ tokens,
        Token.scan limits "not id(x)" = .ok tokens ∧
          3 ≤ tokens.length ∧ tokens.length ≤ 9) ∧
      expr.Way [expr, call, argument] ∧
      [expr, call, argument].countP isEnclosing = 2 ∧
      (∀ way, expr.Way way → way.countP isEnclosing ≤ 2) ∧
      ∀ budget ∈
        (stateAfter (Watched.evaluate environment expr ⟨.start [] (), []⟩)).seen,
        0 ≤ budget.callDepth ∧ budget.callDepth ≤ 2 := by
  intro limits environment argument call expr
  have parsed : parse limits environment.registry.has "not id(x)" = .ok expr := by
    with_unfolding_all rfl
  have down : expr.Way [expr, call, argument] :=
    .step List.mem_cons_self (.step List.mem_cons_self (.stop rfl))
  obtain ⟨⟨tokens, scanned, -, parts, characters, -⟩, ways, evaluated⟩ :=
    bounded_by_source parsed
  exact ⟨parsed, ⟨tokens, scanned, parts, characters⟩, down, rfl, ways,
    (evaluated environment _).2⟩

end Expr
end Templating
