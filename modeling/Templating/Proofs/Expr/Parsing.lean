import Templating.Proofs.Expr.Completeness
import Templating.Proofs.Expr.Soundness
import Templating.Proofs.Token.Longest

/-!
# The parser of expressions and the grammar

The text of an expression is accepted exactly when its tokens have an admitted
derivation, the result is what the derivation means, and there is only one. Every
other text is rejected.
-/

namespace Templating

/-- Whatever the scanner does not read, it rejects. -/
theorem Token.scanFrom_error
    {source : String}
    {position : Nat}
    {text : List Char}
    {error : Error}
    (failed : Token.scanFrom source position text = .error error) :
    error.IsParse := by
  cases Token.scanned source position text with
  | whole scanned reads => cases failed.symm.trans scanned
  | upTo found reads stuck =>
      cases failed.symm.trans found
      trivial

namespace Grammar

/-- The tokens of a whole expression are exactly those of its derivation. -/
theorem parseFrom_eq_ok
    (context : ParserContext)
    (tokens : List Token)
    (expr : Expr) :
    Expr.parseFrom context ⟨tokens, 0⟩ = .ok expr ↔
      ∃ derivation : Derivation whole,
        derivation.tokens = tokens ∧
          derivation.Admitted context.known context.limits.expressionDepth ∧
          derivation.meaning = expr := by
  constructor
  · intro parsed
    cases tokens with
    | nil => cases parsed
    | cons first others =>
        have sound :=
          (within_sound context context.limits.expressionDepth 0).2 (first :: others)
        simp only [Expr.parseFrom, Nat.sub_zero] at parsed
        split at parsed
        · cases parsed
        · next result read =>
            cases parsed
            rw [read] at sound
            obtain ⟨derivation, derived, meant, admitted⟩ := sound
            exact ⟨derivation, by rw [derived, List.append_nil], admitted, meant⟩
        · cases parsed
  · rintro ⟨derivation, rfl, admitted, rfl⟩
    obtain ⟨first, others, begins, -⟩ := derivation.tokens_eq_cons rfl
    have read := within_run_of_admitted derivation admitted 0
    rw [begins] at read ⊢
    simp only [Expr.parseFrom, Nat.sub_zero, read]

theorem parseFrom_error
    {context : ParserContext}
    {tokens : List Token}
    {stop : Stop}
    (failed : Expr.parseFrom context ⟨tokens, 0⟩ = .error stop) :
    stop.error.IsParse := by
  cases tokens with
  | nil =>
      cases failed
      trivial
  | cons first others =>
      have sound :=
        (within_sound context context.limits.expressionDepth 0).2 (first :: others)
      simp only [Expr.parseFrom, Nat.sub_zero] at failed
      split at failed
      · next read =>
          cases failed
          rw [read] at sound
          exact sound
      · cases failed
      · cases failed
        trivial

end Grammar

namespace Expr

theorem parse_eq_ok
    (limits : Limits)
    (known : String → Bool)
    (source : String)
    (expr : Expr) :
    parse limits known source = .ok expr ↔
      source.toList.length ≤ limits.expressionLength ∧
        ∃ tokens,
          Token.scanFrom source 0 source.toList = .ok tokens ∧
            parseFrom { source, known, limits } ⟨tokens, 0⟩ = .ok expr := by
  unfold parse Token.scan Limits.checkLength
  by_cases short : source.toList.length ≤ limits.expressionLength
  · rw [if_pos short]
    simp only [short, true_and]
    cases scanned : Token.scanFrom source 0 source.toList with
    | error error => simp [bind, Except.bind]
    | ok tokens =>
        simp only [bind, Except.bind]
        cases parsed : parseFrom { source, known, limits } ⟨tokens, 0⟩ <;>
          simp [parsed]
  · rw [if_neg short]
    simp [short, bind, Except.bind]

theorem parse_error
    {limits : Limits}
    {known : String → Bool}
    {source : String}
    {error : Error}
    (failed : parse limits known source = .error error) :
    error.IsParse := by
  unfold parse at failed
  split at failed
  · next scanFailed =>
      cases failed
      unfold Token.scan Limits.checkLength at scanFailed
      split at scanFailed
      · exact Token.scanFrom_error scanFailed
      · cases scanFailed
        trivial
  · next tokens scanned =>
      split at failed
      · next stop stopped =>
          cases failed
          exact Grammar.parseFrom_error stopped
      · cases failed

/-- A text is an expression exactly when it is short enough and its tokens have a
derivation that calls known functions only and nests no deeper than allowed. The
derivation is the only one of its tokens, the expression is what it means, and
every other text is rejected. -/
theorem parse_iff_derivation
    (limits : Limits)
    (known : String → Bool)
    (source : String) :
    (∀ expr,
      parse limits known source = .ok expr ↔
        source.toList.length ≤ limits.expressionLength ∧
          ∃ tokens,
            Token.scanFrom source 0 source.toList = .ok tokens ∧
              ∃ derivation : Grammar.Derivation Grammar.whole,
                derivation.tokens = tokens ∧
                  derivation.Admitted known limits.expressionDepth ∧
                  derivation.meaning = expr) ∧
      (∀ first second : Grammar.Derivation Grammar.whole,
        first.tokens = second.tokens → first = second) ∧
      ((∃ expr, parse limits known source = .ok expr) ∨
        ∃ error, parse limits known source = .error error ∧ error.IsParse) := by
  refine ⟨fun expr => ?_, fun first second => first.eq_of_tokens_eq second, ?_⟩
  · rw [parse_eq_ok]
    simp only [Grammar.parseFrom_eq_ok]
  · cases parsed : parse limits known source with
    | ok expr => exact .inl ⟨expr, rfl⟩
    | error error => exact .inr ⟨error, rfl, parse_error parsed⟩

end Expr
end Templating
