import Templating.Proofs.Template.Lexing
import Templating.Proofs.Template.Parsing

/-!
# Parsing within larger limits

What is accepted within some limits is accepted within larger ones, with the same
result: the limits are only compared with what was found.
-/

namespace Templating

variable {limits larger : Limits}

/-- A derivation that nests no deeper than allowed stays so when more is allowed. -/
theorem Grammar.Derivation.Admitted.mono
    {known : String → Bool}
    {allowance more : Nat}
    {symbol : Symbol}
    {derivation : Derivation symbol}
    (admitted : derivation.Admitted known allowance)
    (atMost : allowance ≤ more) :
    derivation.Admitted known more :=
  ⟨admitted.calls, admitted.nesting.trans atMost⟩

theorem Expr.parse_mono
    {known : String → Bool}
    {source : String}
    {expr : Expr}
    (atMost : limits.AtMost larger)
    (parsed : parse limits known source = .ok expr) :
    parse larger known source = .ok expr := by
  obtain ⟨short, tokens, scanned, read⟩ := (parse_eq_ok ..).1 parsed
  obtain ⟨derivation, derived, admitted, meant⟩ := (Grammar.parseFrom_eq_ok ..).1 read
  refine (parse_eq_ok ..).2
    ⟨short.trans atMost.expressionLength, tokens, scanned, ?_⟩
  exact (Grammar.parseFrom_eq_ok ..).2
    ⟨derivation, derived, admitted.mono atMost.expressionDepth, meant⟩

theorem Segment.Cuts.mono
    {position : Nat}
    {text : List Char}
    {segments : List Segment}
    (atMost : limits.AtMost larger)
    (cuts : Cuts limits position text segments) :
    Cuts larger position text segments := by
  induction cuts with
  | done position => exact .done position
  | tag closed short cuts inductionHypothesis =>
      exact .tag closed (short.trans atMost.expressionLength) inductionHypothesis
  | text literal cuts inductionHypothesis => exact .text literal inductionHypothesis

/-- The same context with other limits. -/
def AssemblyContext.withLimits (context : AssemblyContext) (limits : Limits) :
    AssemblyContext :=
  { context with limits }

variable {context : AssemblyContext} {base : Nat}

theorem Assembly.Adds.mono
    {assembly next : Assembly}
    {segment : Segment}
    (atMost : context.limits.AtMost larger)
    (adds : assembly.Adds context base segment next) :
    assembly.Adds (context.withLimits larger) base segment next := by
  cases adds with
  | text content position => exact .text content position
  | output position reads => exact .output position (Expr.parse_mono atMost reads)
  | rawOutput position reads => exact .rawOutput position (Expr.parse_mono atMost reads)
  | ifBlock position fits reads =>
      exact .ifBlock position (fits.trans atMost.nestingDepth)
        (Expr.parse_mono atMost reads)
  | eachBlock position fits binds reads =>
      exact .eachBlock position (fits.trans atMost.nestingDepth) binds
        (Expr.parse_mono atMost reads)
  | elifBranch position isBranch reads =>
      exact .elifBranch position isBranch (Expr.parse_mono atMost reads)
  | elseBranch content position isBranch => exact .elseBranch content position isBranch
  | closing content position isOpen => exact .closing content position isOpen

namespace Template

theorem assembleFrom_mono
    {assembly : Assembly}
    {segments : List Segment}
    {template : Template}
    (atMost : context.limits.AtMost larger)
    (assembled : (assembleFrom context base assembly segments).1 = .ok template) :
    (assembleFrom (context.withLimits larger) base assembly segments).1 =
      .ok template := by
  induction segments generalizing assembly with
  | nil =>
      simp only [assembleFrom, Assembly.finish] at assembled ⊢
      split at assembled
      · exact assembled
      · cases assembled
  | cons segment rest inductionHypothesis =>
      rw [assembleFrom] at assembled ⊢
      split at assembled
      · next early =>
          rw [if_pos early]
          exact assembled
      · next goesOn =>
          rw [if_neg goesOn]
          split at assembled
          · next next stepped =>
              have adds := (Assembly.adds_of_step stepped).mono atMost
              simp only [Assembly.step_of_adds adds]
              exact inductionHypothesis assembled
          · cases assembled

/-- A text writes the same template within larger limits. -/
theorem parseWithSegments_mono
    {known : String → Bool}
    {source : String}
    {result : List Segment × Template}
    (atMost : limits.AtMost larger)
    (parsed : parseWithSegments limits known source = .ok result) :
    parseWithSegments larger known source = .ok result := by
  obtain ⟨segments, lexed, parsed⟩ := (bind_eq_ok ..).1 parsed
  obtain ⟨template, assembled, made⟩ := (bind_eq_ok ..).1 parsed
  have cuts := (Segment.cuts_of_lexFrom lexed).mono atMost
  have wider := assembleFrom_mono atMost assembled
  refine (bind_eq_ok ..).2 ⟨segments, Segment.lexFrom_of_cuts cuts source, ?_⟩
  exact (bind_eq_ok ..).2 ⟨template, wider, made⟩

end Template
end Templating
