import Templating.Proofs.Template.Assembling
import Templating.Proofs.Template.Rejections

/-!
# Which segments make up a template

Segments whose block tags carry keywords of the language make up a template
exactly when they write it and its blocks are nested no deeper than allowed. All
others are rejected.
-/

namespace Templating

variable {context : AssemblyContext} {base : Nat} {assembly : Assembly}

namespace Assembly

theorem finish_error
    {error : Error}
    (failed : assembly.finish context = .error error) :
    error.IsParse := by
  unfold finish at failed
  split at failed
  · cases failed
  · cases failed
    trivial

end Assembly

namespace Template

theorem assembleFrom_error
    {segments : List Segment}
    {error : Error}
    (failed : (assembleFrom context base assembly segments).1 = .error error) :
    error.IsParse := by
  induction segments generalizing assembly with
  | nil => exact Assembly.finish_error failed
  | cons segment rest inductionHypothesis =>
      rw [assembleFrom] at failed
      split at failed
      · cases failed
      · split at failed
        · exact inductionHypothesis failed
        · next refusal refused =>
            cases failed
            exact (Assembly.step_notAdded refused).rejected.isParse

/-- What is put together to the end meets all that was demanded on the way. -/
theorem closes_of_assembleFrom
    {segments : List Segment}
    {template : Template}
    (known : ∀ segment ∈ segments, segment.IsKnown)
    (fits : base + assembly.frames.length ≤ context.limits.nestingDepth)
    (assembled : (assembleFrom context base assembly segments).1 = .ok template) :
    Closes context base template assembly.frames assembly.nodes segments := by
  induction segments generalizing assembly with
  | nil =>
      simp only [assembleFrom, Assembly.finish] at assembled
      split at assembled
      · next closed =>
          cases assembled
          rw [closed] at fits ⊢
          exact ⟨[], .nil, fits, by simp⟩
      · cases assembled
  | cons segment rest inductionHypothesis =>
      rw [assembleFrom] at assembled
      split at assembled
      · next early =>
          have isKnown := known segment List.mem_cons_self
          simp [Segment.IsKnown, early.1, Closing.IsKnown] at isKnown
      · split at assembled
        · next next stepped =>
            have adds := Assembly.adds_of_step stepped
            refine Closes.step adds fits ?_
            exact inductionHypothesis
              (fun other inside => known other (List.mem_cons_of_mem segment inside))
              (adds.frames_fit fits) assembled
        · cases assembled

/-- Segments whose tags carry keywords of the language make up exactly the
templates that they write and whose blocks are nested no deeper than allowed. They
are rejected when there is none. -/
theorem ofSegments_iff_spelled
    (context : AssemblyContext)
    (segments : List Segment)
    (known : ∀ segment ∈ segments, segment.IsKnown) :
    (∀ template : Template,
      ofSegments context segments = .ok template ↔
        Node.AllSpelled context template segments ∧
          template.blockDepth ≤ context.limits.nestingDepth) ∧
      ((∃ template, ofSegments context segments = .ok template) ∨
        ∃ error, ofSegments context segments = .error error ∧ error.IsParse) := by
  refine ⟨fun template => ⟨fun assembled => ?_, ?_⟩, ?_⟩
  · obtain ⟨body, spelled, fits, rfl⟩ :=
      closes_of_assembleFrom known (Nat.zero_le _) assembled
    rw [Nat.zero_add] at fits
    exact ⟨spelled, fits⟩
  · rintro ⟨spelled, fits⟩
    have room :
        0 + Assembly.empty.frames.length + Node.blockDepthAll template ≤
          context.limits.nestingDepth := by
      rw [Nat.zero_add, Assembly.empty, List.length_nil, Nat.zero_add]
      exact fits
    have assembled := spelled.assembled .empty [] room
    rw [List.append_nil] at assembled
    simp only [ofSegments, parseFrom]
    rw [assembled]
    simp [assembleFrom, Assembly.finish, Assembly.extend, Assembly.empty]
  · cases assembled : ofSegments context segments with
    | ok template => exact .inl ⟨template, rfl⟩
    | error error => exact .inr ⟨error, rfl, assembleFrom_error assembled⟩

/-- A conditional with a loop in its first body, a further branch and an `else` is made up
of nine segments. -/
theorem ofSegments_loop_in_branch :
    let context : AssemblyContext := ⟨none, fun _ => false, .standard⟩
    let segments : List Segment :=
      [⟨.opening .ifBlock, "a", 0⟩, ⟨.opening .eachBlock, "x in xs", 8⟩,
        ⟨.output, "x", 24⟩, ⟨.closing .endEach, "", 29⟩,
        ⟨.opening .elifBranch, "b", 40⟩, ⟨.rawOutput, "b", 50⟩,
        ⟨.opening .elseBranch, "", 58⟩, ⟨.text, "none", 66⟩, ⟨.closing .endIf, "", 70⟩]
    (∀ segment ∈ segments, segment.IsKnown) ∧
      ofSegments context segments =
        .ok
          [.conditional (.reference 0 "a")
            [.loop "x" (.reference 0 "xs") [.output (.reference 0 "x")]]
            (.elif (.reference 0 "b") [.rawOutput (.reference 0 "b")]
              (.otherwise [.text "none"]))] := by
  intro context segments
  have known : ∀ segment ∈ segments, segment.IsKnown := by
    simp [segments, Segment.IsKnown, Opening.IsKnown, Closing.IsKnown]
  have reads (name : String) (isName : name ∈ ["a", "b", "x", "xs"]) :
      Expr.parse context.limits context.known name = .ok (.reference 0 name) := by
    simp only [List.mem_cons, List.not_mem_nil, or_false] at isName
    rcases isName with rfl | rfl | rfl | rfl <;> with_unfolding_all rfl
  have binds : Tag.Binds "x in xs".toList "x".toList "xs".toList :=
    (Tag.binding?_eq_some _ _ _).1 (by decide)
  have loop :
      Node.Spelled context (.loop "x" (.reference 0 "xs") [.output (.reference 0 "x")])
        [⟨.opening .eachBlock, "x in xs", 8⟩, ⟨.output, "x", 24⟩,
          ⟨.closing .endEach, "", 29⟩] :=
    .loop 8 29 binds (reads "xs" (by simp)) (.cons (.output 24 (reads "x" (by simp))) .nil)
  have branches :
      Branches.Spelled context
        (.elif (.reference 0 "b") [.rawOutput (.reference 0 "b")]
          (.otherwise [.text "none"]))
        [⟨.opening .elifBranch, "b", 40⟩, ⟨.rawOutput, "b", 50⟩,
          ⟨.opening .elseBranch, "", 58⟩, ⟨.text, "none", 66⟩,
          ⟨.closing .endIf, "", 70⟩] :=
    .elif 40 (reads "b" (by simp)) (.cons (.rawOutput 50 (reads "b" (by simp))) .nil)
      (.otherwise "" "" 58 70 (.cons (.text "none" 66) .nil))
  refine ⟨known, ((ofSegments_iff_spelled context segments known).1 _).2 ⟨?_, by decide⟩⟩
  exact .cons (.conditional 0 (reads "a" (by simp)) (.cons loop .nil) branches) .nil

end Template
end Templating
