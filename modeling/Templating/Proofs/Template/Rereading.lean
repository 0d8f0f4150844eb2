import Templating.Proofs.Expr.Rereading
import Templating.Proofs.Template.Expressions
import Templating.Proofs.Template.Sources

/-!
# Parsing a template with fewer functions

With fewer functions the segments of a template are put together in the same steps, up
to the first expression that calls a missing function. So a template that was accepted
is accepted again, or the first call of a missing function is told.
-/

namespace Templating

/-- The first call of a function that is not known, with the text of its expression,
among expressions with their texts. -/
def firstMissing? (known : String → Bool) (readings : List (String × Expr)) :
    Option (String × CallSite) :=
  readings.findSome? fun reading =>
    (missing? known reading.2.calls).map fun site => (reading.1, site)

/-- A call of a function stands in an expression, among expressions in the order in which
they are written, and no call of the function stands in front of it. -/
def FirstCall
    (name : String)
    (readings : List (String × Expr))
    (source : String)
    (site : CallSite) :
    Prop :=
  ∃ before expr after early late,
    readings = before ++ (source, expr) :: after ∧
      expr.calls = early ++ site :: late ∧
      site.function = name ∧
      (∀ reading ∈ before, ∀ other ∈ reading.2.calls, other.function ≠ name) ∧
      ∀ other ∈ early, other.function ≠ name

theorem FirstCall.function_eq
    {name source : String}
    {readings : List (String × Expr)}
    {site : CallSite}
    (first : FirstCall name readings source site) :
    site.function = name := by
  obtain ⟨-, -, -, -, -, -, -, called, -⟩ := first
  exact called

/-- The same context with other functions. -/
def AssemblyContext.withKnown (context : AssemblyContext) (known : String → Bool) :
    AssemblyContext :=
  { context with known }

variable {context : AssemblyContext} {base : Nat}

namespace Assembly

/-- A segment without an expression is added whatever functions are known. -/
theorem Adds.withKnown
    {assembly next : Assembly}
    {segment : Segment}
    (adds : assembly.Adds context base segment next)
    (nothing : segment.source? = none)
    (known : String → Bool) :
    assembly.Adds (context.withKnown known) base segment next := by
  cases adds with
  | text content position => exact .text content position
  | output position reads => cases nothing
  | rawOutput position reads => cases nothing
  | ifBlock position fits reads => cases nothing
  | eachBlock position fits binds reads =>
      rw [Segment.source?_of_binds position binds] at nothing
      cases nothing
  | elifBranch position isBranch reads => cases nothing
  | elseBranch content position isBranch => exact .elseBranch content position isBranch
  | closing content position isOpen => exact .closing content position isOpen

/-- A segment with an expression that is still read is added again. -/
theorem Adds.withKnown_of_reads
    {assembly next : Assembly}
    {segment : Segment}
    {source : String}
    {expr : Expr}
    {known : String → Bool}
    (adds : assembly.Adds context base segment next)
    (holds : segment.source? = some source)
    (reads : context.Reads source expr)
    (rereads : (context.withKnown known).Reads source expr) :
    assembly.Adds (context.withKnown known) base segment next := by
  have again : ∀ {content : String} {other : Expr},
      some content = some source → context.Reads content other →
        (context.withKnown known).Reads content other := by
    rintro content other ⟨⟩ readsOther
    cases Except.ok.inj (reads.symm.trans readsOther)
    exact rereads
  cases adds with
  | text content position => cases holds
  | output position readsContent => exact .output position (again holds readsContent)
  | rawOutput position readsContent => exact .rawOutput position (again holds readsContent)
  | ifBlock position fits readsContent =>
      exact .ifBlock position fits (again holds readsContent)
  | eachBlock position fits binds readsSource =>
      rw [Segment.source?_of_binds position binds] at holds
      exact .eachBlock position fits binds (again holds readsSource)
  | elifBranch position isBranch readsContent =>
      exact .elifBranch position isBranch (again holds readsContent)
  | elseBranch content position isBranch => cases holds
  | closing content position isOpen => cases holds

/-- A segment whose expression is rejected is rejected with the same error. -/
theorem Adds.refused
    {assembly next : Assembly}
    {segment : Segment}
    {source : String}
    {known : String → Bool}
    {error : Error}
    (adds : assembly.Adds context base segment next)
    (holds : segment.source? = some source)
    (rejected : Expr.parse context.limits known source = .error error) :
    ∃ refusal,
      assembly.step (context.withKnown known) base segment = .error refusal ∧
        refusal.error = error := by
  have fails : ∀ {content : String} (consumed : Bool) (depth : Nat),
      some content = some source →
        readExpr (context.withKnown known) content consumed depth =
          .error ⟨error, consumed, depth⟩ := by
    rintro content consumed depth ⟨⟩
    simp only [readExpr, AssemblyContext.withKnown, rejected]
  have entered (segment : Segment)
      (fits : base + assembly.frames.length + 1 ≤ context.limits.nestingDepth) :
      enter (context.withKnown known) base assembly segment =
        .ok (base + assembly.frames.length + 1) :=
    enter_of_fits fits segment
  cases adds with
  | text content position => cases holds
  | output position readsContent =>
      simp only [step, fails _ _ holds]
      exact ⟨_, rfl, rfl⟩
  | rawOutput position readsContent =>
      simp only [step, fails _ _ holds]
      exact ⟨_, rfl, rfl⟩
  | ifBlock position fits readsContent =>
      simp only [step, stepIf, entered _ fits, fails _ _ holds]
      exact ⟨_, rfl, rfl⟩
  | eachBlock position fits binds readsSource =>
      rw [Segment.source?_of_binds position binds] at holds
      simp only [step, stepEach, entered _ fits, (Tag.binding?_eq_some ..).2 binds,
        fails _ _ holds]
      exact ⟨_, rfl, rfl⟩
  | elifBranch position isBranch readsContent =>
      simp only [step, stepElif, isBranch, fails _ _ holds]
      exact ⟨_, rfl, rfl⟩
  | elseBranch content position isBranch => cases holds
  | closing content position isOpen => cases holds

end Assembly

namespace Template

/-- What was put together with some functions is put together again with others, or the
first call of a missing function is told. -/
theorem assembleFrom_withKnown
    {assembly : Assembly}
    {segments : List Segment}
    {template : Template}
    {exprs : List Expr}
    (isKnown : ∀ segment ∈ segments, segment.IsKnown)
    (assembled : (assembleFrom context base assembly segments).1 = .ok template)
    (reads : List.Forall₂ context.Reads (Segment.sources segments) exprs)
    (known : String → Bool) :
    (assembleFrom (context.withKnown known) base assembly segments).1 =
      match firstMissing? known ((Segment.sources segments).zip exprs) with
      | none => .ok template
      | some (source, site) => .error (missingError source site) := by
  induction segments generalizing assembly exprs with
  | nil =>
      cases reads
      simp only [assembleFrom, Assembly.finish] at assembled ⊢
      split at assembled
      · exact assembled
      · cases assembled
  | cons segment rest inductionHypothesis =>
      obtain ⟨isKnownHere, isKnownRest⟩ := List.forall_mem_cons.1 isKnown
      have goesOn : ¬ (segment.kind = .closing (.other none) ∧ assembly.frames = []) := by
        rintro ⟨isOther, -⟩
        simp only [Segment.IsKnown, isOther] at isKnownHere
        exact isKnownHere
      rw [assembleFrom, if_neg goesOn] at assembled
      split at assembled
      · next next stepped =>
          have adds := Assembly.adds_of_step stepped
          cases holds : segment.source? with
          | none =>
              rw [Segment.sources, List.filterMap_cons_none holds] at reads ⊢
              rw [Assembly.assembleFrom_of_adds (adds.withKnown holds known)]
              exact inductionHypothesis isKnownRest assembled reads
          | some source =>
              rw [Segment.sources, List.filterMap_cons_some holds] at reads ⊢
              cases reads with
              | @cons _ expr _ exprs readsHere readsRest =>
                  have reread := Expr.parse_withKnown readsHere known
                  rw [List.zip_cons_cons, firstMissing?, List.findSome?_cons]
                  cases missing : missing? known expr.calls with
                  | none =>
                      rw [missing] at reread
                      have rereads : (context.withKnown known).Reads source expr := reread
                      rw [Assembly.assembleFrom_of_adds
                        (adds.withKnown_of_reads holds readsHere rereads)]
                      exact inductionHypothesis isKnownRest assembled readsRest
                  | some site =>
                      rw [missing] at reread
                      obtain ⟨refusal, refused, same⟩ := adds.refused holds reread
                      rw [assembleFrom, if_neg goesOn, refused]
                      exact congrArg Except.error same
      · cases assembled

/-- A text that is accepted with some functions is accepted with others as the same
template, or the first call of a missing function is told. -/
theorem parseWithSegments_withKnown
    {limits : Limits}
    {known : String → Bool}
    {source : String}
    {segments : List Segment}
    {template : Template}
    (parsed : parseWithSegments limits known source = .ok (segments, template))
    (fewer : String → Bool) :
    parseWithSegments limits fewer source =
      match
        firstMissing? fewer ((Segment.sources segments).zip template.expressions)
      with
      | none => .ok (segments, template)
      | some (tag, site) => .error (missingError tag site) := by
  obtain ⟨lexed, spelled, -⟩ := spelled_of_parseWithSegments parsed
  obtain ⟨found, lexedAgain, parsed⟩ := (bind_eq_ok ..).1 parsed
  obtain ⟨made, assembled, same⟩ := (bind_eq_ok ..).1 parsed
  cases same
  have isKnown := (Segment.cuts_of_lexFrom lexed).isKnown
  have again := assembleFrom_withKnown isKnown assembled spelled.reads_sources fewer
  rw [parseWithSegments, lexed, Template.expressions]
  change (ofSegments _ segments >>= fun template => pure (segments, template)) = _
  rw [ofSegments, parseFrom]
  refine (congrArg (· >>= fun template => pure (segments, template)) again).trans ?_
  cases firstMissing? fewer
    ((Segment.sources segments).zip (Node.expressionsAll template)) <;> rfl

/-- When all calls are of known functions, and then one function is known no more, the
first call of a missing function is the first call of that one. -/
theorem firstCall_of_called
    {known fewer : String → Bool}
    {name : String}
    {readings : List (String × Expr)}
    (remains : ∀ other, fewer other = true ↔ other ≠ name ∧ known other = true)
    (knows : ∀ reading ∈ readings, ∀ site ∈ reading.2.calls, known site.function = true)
    (called : ∃ reading ∈ readings, ∃ site ∈ reading.2.calls, site.function = name) :
    ∃ source site,
      firstMissing? fewer readings = some (source, site) ∧
        FirstCall name readings source site := by
  have missing : ∀ reading ∈ readings, ∀ site ∈ reading.2.calls,
      fewer site.function = false ↔ site.function = name := by
    intro reading member site isSite
    rw [Bool.eq_false_iff, ne_eq, remains]
    exact ⟨fun absent => by_contra fun other => absent ⟨other, knows _ member _ isSite⟩,
      fun same present => present.1 same⟩
  cases found : firstMissing? fewer readings with
  | none =>
      obtain ⟨reading, member, site, isSite, isCalled⟩ := called
      have nothing := List.findSome?_eq_none_iff.1 found reading member
      have present := missing?_eq_none.1 (Option.map_eq_none_iff.1 nothing) site isSite
      rw [(missing reading member site isSite).2 isCalled] at present
      cases present
  | some first =>
      obtain ⟨before, ⟨source, expr⟩, after, rfl, atReading, earlierReadings⟩ :=
        List.findSome?_eq_some_iff.1 found
      obtain ⟨site, atSite, same⟩ := Option.map_eq_some_iff.1 atReading
      cases same
      obtain ⟨isMissing, early, late, split, earlierSites⟩ :=
        List.find?_eq_some_iff_append.1 atSite
      have member : (source, expr) ∈ before ++ (source, expr) :: after := by simp
      refine ⟨source, site, rfl, before, expr, after, early, late, rfl, split, ?_, ?_, ?_⟩
      · refine (missing _ member site (by simp [split])).1 ?_
        simpa using isMissing
      · intro reading isEarlier other isSite isCalled
        have nothing := Option.map_eq_none_iff.1 (earlierReadings reading isEarlier)
        have present := missing?_eq_none.1 nothing other isSite
        rw [(missing reading (by simp [isEarlier]) other isSite).2 isCalled] at present
        cases present
      · intro other isEarlier isCalled
        have present := earlierSites other isEarlier
        rw [(missing _ member other (by simp [split, isEarlier])).2 isCalled] at present
        cases present

end Template
end Templating
