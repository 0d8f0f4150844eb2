import Templating.Proofs.Template.Sources

/-!
# The order of expressions

The expressions of a template are collected from its tree: a condition in front of its
body, and a body in front of the branches behind it. The tags that hold expressions stand
in the text in the same order, and none of them is passed over.
-/

namespace Templating
namespace Segment

/-- The segment holds an expression. -/
def holdsExpression (segment : Segment) : Bool :=
  match segment.kind with
  | .output | .rawOutput => true
  | .opening .ifBlock | .opening .elifBranch | .opening .eachBlock => true
  | _ => false

theorem source?_eq_none
    {segment : Segment}
    (holdsNone : segment.holdsExpression = false) :
    segment.source? = none := by
  obtain ⟨kind, content, position⟩ := segment
  cases kind with
  | text | closing => rfl
  | output | rawOutput => cases holdsNone
  | opening opening =>
      cases opening with
      | elseBranch | other => rfl
      | ifBlock | elifBranch | eachBlock => cases holdsNone

/-- When each segment that holds an expression has a text of it, these are all the
texts. -/
theorem mapM_source?
    {segments : List Segment}
    (found :
      ∀ segment ∈ segments,
        segment.holdsExpression = true → ∃ source, segment.source? = some source) :
    (segments.filter holdsExpression).mapM source? = some (sources segments) := by
  induction segments with
  | nil => rfl
  | cons segment rest inductionHypothesis =>
      have others :=
        inductionHypothesis fun other inside =>
          found other (List.mem_cons_of_mem segment inside)
      cases holds : segment.holdsExpression with
      | true =>
          obtain ⟨source, isSource⟩ := found segment List.mem_cons_self holds
          rw [List.filter_cons_of_pos holds, List.mapM_cons, isSource, others]
          rw [sources, sources, List.filterMap_cons_some isSource]
          rfl
      | false =>
          rw [List.filter_cons_of_neg (by simp [holds]), others]
          rw [sources, sources, List.filterMap_cons_none (source?_eq_none holds)]

end Segment

/-- Actions that succeed one by one succeed one after the other. -/
theorem mapM_eq_ok_of_forall₂
    {ε α β : Type}
    {action : α → Except ε β}
    {arguments : List α}
    {results : List β}
    (succeed :
      List.Forall₂ (fun argument result => action argument = .ok result) arguments
        results) :
    arguments.mapM action = .ok results := by
  induction succeed with
  | nil => rfl
  | cons first _ others =>
      rw [List.mapM_cons, first, others]
      rfl

variable {context : AssemblyContext} {base : Nat} {assembly : Assembly}

/-- A segment that can be added and holds an expression has a text of it. -/
theorem Assembly.Adds.exists_source
    {segment : Segment}
    {next : Assembly}
    (adds : assembly.Adds context base segment next)
    (holds : segment.holdsExpression = true) :
    ∃ source, segment.source? = some source := by
  cases adds with
  | output | rawOutput | ifBlock | elifBranch => exact ⟨_, rfl⟩
  | eachBlock position fits binds reads =>
      exact ⟨_, Segment.source?_of_binds position binds⟩
  | text | elseBranch | closing => cases holds

namespace Template

/-- Every segment that is put together to the end and holds an expression has a text of
it. -/
theorem exists_source_of_assembleFrom
    {segments : List Segment}
    {template : Template}
    (known : ∀ segment ∈ segments, segment.IsKnown)
    (assembled : (assembleFrom context base assembly segments).1 = .ok template) :
    ∀ segment ∈ segments,
      segment.holdsExpression = true → ∃ source, segment.source? = some source := by
  induction segments generalizing assembly with
  | nil => exact fun _ absent => absurd absent List.not_mem_nil
  | cons segment rest inductionHypothesis =>
      rw [assembleFrom] at assembled
      split at assembled
      · next early =>
          have isKnown := known segment List.mem_cons_self
          simp [Segment.IsKnown, early.1, Closing.IsKnown] at isKnown
      · split at assembled
        · next next stepped =>
            intro other inside
            obtain rfl | later := List.mem_cons.1 inside
            · exact (Assembly.adds_of_step stepped).exists_source
            · exact inductionHypothesis
                (fun kept inside => known kept (List.mem_cons_of_mem segment inside))
                assembled other later
        · cases assembled

/-- The expressions of a template are what the tags that hold expressions are read as, in
the order of the text: each such tag has a text of its expression, behind the word `in`
for a loop, and reading these texts one after the other gives the expressions with their
positions. -/
theorem expressions_in_order
    {lexing : Limits}
    {source : String}
    {segments : List Segment}
    {template : Template}
    (lexed : Segment.ofTemplate lexing source = .ok segments)
    (assembled : ofSegments context segments = .ok template) :
    ∃ sources,
      (segments.filter Segment.holdsExpression).mapM Segment.source? = some sources ∧
        sources.mapM (Expr.parse context.limits context.known) =
          .ok template.expressions := by
  have known := (Segment.cuts_of_lexFrom lexed).isKnown
  obtain ⟨body, spelled, -, rfl⟩ :=
    closes_of_assembleFrom known (Nat.zero_le _) assembled
  exact ⟨Segment.sources segments,
    Segment.mapM_source? (exists_source_of_assembleFrom known assembled),
    mapM_eq_ok_of_forall₂ spelled.reads_sources⟩

/-- What a loop runs over is read before the tag in its body. -/
theorem expressions_in_order_loop :
    ∃ segments template sources,
      Segment.ofTemplate .standard
            "\x7b\x7beach x in a\x7d\x7d\x7b\x7b! b \x7d\x7d\x7b\x7bendeach\x7d\x7d" =
          .ok segments ∧
        ofSegments ⟨none, fun _ => false, .standard⟩ segments = .ok template ∧
        (segments.filter Segment.holdsExpression).mapM Segment.source? = some sources ∧
        sources.mapM (Expr.parse .standard fun _ => false) = .ok template.expressions ∧
        sources = ["a", "b"] := by
  have opening :
      Tag.splitClosing? false
          (Tag.splitRawMark
            "each x in a\x7d\x7d\x7b\x7b! b \x7d\x7d\x7b\x7bendeach\x7d\x7d".toList).2 =
        some
          ("each x in a".toList, "\x7b\x7b! b \x7d\x7d\x7b\x7bendeach\x7d\x7d".toList) := by
    decide
  have inner :
      Tag.splitClosing? false
          (Tag.splitRawMark "! b \x7d\x7d\x7b\x7bendeach\x7d\x7d".toList).2 =
        some (" b ".toList, "\x7b\x7bendeach\x7d\x7d".toList) := by
    decide
  have closing :
      Tag.splitClosing? false (Tag.splitRawMark "endeach\x7d\x7d".toList).2 =
        some ("endeach".toList, []) := by
    decide
  have lexed :
      Segment.ofTemplate .standard
          "\x7b\x7beach x in a\x7d\x7d\x7b\x7b! b \x7d\x7d\x7b\x7bendeach\x7d\x7d" =
        .ok
          [⟨.opening .eachBlock, "x in a", 0⟩, ⟨.rawOutput, "b", 15⟩,
            ⟨.closing .endEach, "", 23⟩] :=
    Segment.lexFrom_of_cuts
      (.tag opening (by decide)
        (.tag inner (by decide) (.tag closing (by decide) (.done _)))) _
  have assembled :
      ofSegments ⟨none, fun _ => false, .standard⟩
          [⟨.opening .eachBlock, "x in a", 0⟩, ⟨.rawOutput, "b", 15⟩,
            ⟨.closing .endEach, "", 23⟩] =
        .ok [.loop "x" (.reference 0 "a") [.rawOutput (.reference 0 "b")]] := by
    with_unfolding_all rfl
  obtain ⟨sources, found, reads⟩ := expressions_in_order lexed assembled
  exact ⟨_, _, sources, lexed, assembled, found, reads, by cases found; rfl⟩

end Template
end Templating
