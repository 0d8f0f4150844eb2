import Mathlib.Data.List.Induction
import Templating.Proofs.Render.Simulation

/-!
# Bounded renders refine unbounded runs

A render gives an output exactly when the run without a budget ends with that
output and stays within the limits. Otherwise it fails with the first thing that
goes wrong in the run: the first occurrence that exceeds a limit, or the failure
that the run ends with.
-/

namespace Templating
namespace Unbounded

variable {σ α : Type}

/-- What happens in a run stays within limits. -/
structure Within (limits : Limits) (occurrences : List (Occurrence σ)) : Prop where
  iterations : iterations occurrences ≤ limits.loopIterations
  blocks : ∀ depth : Int, .block depth ∈ occurrences → depth ≤ limits.nestingDepth
  calls : ∀ depth : Int, .call depth ∈ occurrences → depth ≤ limits.callDepth
  output : (output occurrences).utf8ByteSize ≤ limits.outputSize

/-- An occurrence exceeds a limit, after what happened before it. -/
inductive Exceeds (limits : Limits) (before : List (Occurrence σ)) :
    Occurrence σ → Error → Prop
  | block {depth : Int} :
      limits.nestingDepth < depth →
      Exceeds limits before (.block depth)
        (.exhausted .nestingDepth limits.nestingDepth depth)
  | call {depth : Int} :
      limits.callDepth < depth →
      Exceeds limits before (.call depth)
        (.exhausted .callDepth limits.callDepth depth)
  | iteration :
      limits.loopIterations < iterations before + 1 →
      Exceeds limits before .iteration
        (.exhausted .loopIterations limits.loopIterations (iterations before + 1))
  | emission {piece : Piece} :
      limits.outputSize <
        (Unbounded.output before).utf8ByteSize + piece.text.utf8ByteSize →
      Exceeds limits before (.emission piece)
        (.exhausted .outputSize limits.outputSize
          ((Unbounded.output before).utf8ByteSize + piece.text.utf8ByteSize))

/-- How a run fails within limits, and what happened before. -/
inductive Fails (limits : Limits) (course : Course σ α) :
    List (Occurrence σ) → Failure → Prop
  /-- An occurrence is the first one that exceeds a limit. -/
  | exceeded
      {before after : List (Occurrence σ)}
      {occurrence : Occurrence σ}
      {error : Error} :
      course.occurrences = before ++ occurrence :: after →
      Within limits before →
      Exceeds limits before occurrence error →
      Fails limits course before (.error error)
  /-- The run fails before any limit is exceeded. -/
  | ended {failure : Failure} :
      Within limits course.occurrences →
      course.outcome = .error failure →
      Fails limits course course.occurrences failure

/-- What an occurrence adds to the output. -/
def Occurrence.text : Occurrence σ → String
  | .emission piece => piece.text
  | _ => ""

@[simp] theorem output_nil : output ([] : List (Occurrence σ)) = "" := by
  simp [output, pieces]

@[simp] theorem output_cons
    (occurrence : Occurrence σ)
    (rest : List (Occurrence σ)) :
    output (occurrence :: rest) = occurrence.text ++ output rest := by
  cases occurrence <;> simp [output, pieces, Occurrence.text]

@[simp] theorem output_append (first second : List (Occurrence σ)) :
    output (first ++ second) = output first ++ output second := by
  simp [output, pieces, List.filterMap_append]

@[simp] theorem iterations_nil : iterations ([] : List (Occurrence σ)) = 0 := rfl

@[simp] theorem iterations_cons
    (occurrence : Occurrence σ)
    (rest : List (Occurrence σ)) :
    iterations (occurrence :: rest) =
      iterations rest + if occurrence.isIteration then 1 else 0 :=
  List.countP_cons

@[simp] theorem iterations_append (first second : List (Occurrence σ)) :
    iterations (first ++ second) = iterations first + iterations second :=
  List.countP_append

variable {limits : Limits}

namespace Within

theorem nil : Within limits ([] : List (Occurrence σ)) where
  iterations := Nat.zero_le _
  blocks := by simp
  calls := by simp
  output := by simp

/-- What happens first stays within limits when all of it does. -/
theorem of_append
    {first second : List (Occurrence σ)}
    (whole : Within limits (first ++ second)) :
    Within limits first where
  iterations := by
    have total := whole.iterations
    rw [iterations_append] at total
    omega
  blocks := fun depth member =>
    whole.blocks depth (List.mem_append_left second member)
  calls := fun depth member =>
    whole.calls depth (List.mem_append_left second member)
  output := by
    have total := whole.output
    rw [output_append, String.utf8ByteSize_append] at total
    omega

/-- A further occurrence stays within the limits or exceeds one. -/
theorem snoc
    {before : List (Occurrence σ)}
    (within : Within limits before)
    (occurrence : Occurrence σ) :
    Within limits (before ++ [occurrence]) ∨
      ∃ error, Exceeds limits before occurrence error := by
  obtain ⟨few, shallow, flat, short⟩ := within
  by_cases exceeds : ∃ error, Exceeds limits before occurrence error
  · exact .inr exceeds
  · left
    constructor
    · cases occurrence with
      | iteration =>
          have allowed :
              ¬ limits.loopIterations < Unbounded.iterations before + 1 :=
            fun many => exceeds ⟨_, .iteration many⟩
          simp [Occurrence.isIteration]
          omega
      | _ => simpa [Occurrence.isIteration] using few
    · intro depth member
      rcases List.mem_append.1 member with earlier | last
      · exact shallow depth earlier
      · rw [← List.mem_singleton.1 last] at exceeds
        exact Int.not_lt.1 fun deep => exceeds ⟨_, .block deep⟩
    · intro depth member
      rcases List.mem_append.1 member with earlier | last
      · exact flat depth earlier
      · rw [← List.mem_singleton.1 last] at exceeds
        exact Int.not_lt.1 fun deep => exceeds ⟨_, .call deep⟩
    · cases occurrence with
      | emission piece =>
          have allowed : ¬ limits.outputSize <
              (Unbounded.output before).utf8ByteSize + piece.text.utf8ByteSize :=
            fun long => exceeds ⟨_, .emission long⟩
          simp [Occurrence.text, String.utf8ByteSize_append]
          omega
      | _ => simpa [Occurrence.text] using short

end Within

/-- A run stays within the limits, or one of its occurrences is the first that
exceeds one. -/
theorem within_or_exceeds (limits : Limits) (occurrences : List (Occurrence σ)) :
    Within limits occurrences ∨
      ∃ before occurrence after error,
        occurrences = before ++ occurrence :: after ∧
          Within limits before ∧ Exceeds limits before occurrence error := by
  induction occurrences using List.reverseRecOn with
  | nil => exact .inl .nil
  | append_singleton earlier last inductionHypothesis =>
      rcases inductionHypothesis with
        within | ⟨before, occurrence, after, error, split, within, exceeds⟩
      · rcases within.snoc last with whole | ⟨error, exceeds⟩
        · exact .inl whole
        · exact .inr ⟨earlier, last, [], error, rfl, within, exceeds⟩
      · refine .inr ⟨before, occurrence, after ++ [last], error, ?_, within, exceeds⟩
        rw [split, List.append_assoc, List.cons_append]

/-- The session of a render after a number of occurrences that were allowed. -/
def reached (data : Scope) (host : σ) (occurrences : List (Occurrence σ)) :
    Session σ where
  scopes := [data]
  budget :=
    { loopIterations := iterations occurrences
      nestingDepth := 0
      callDepth := 0
      outputSize := (output occurrences).utf8ByteSize }
  pieces := ((pieces occurrences).map Piece.text).reverse
  host := hostAfter host occurrences

@[simp] theorem output_reached
    (data : Scope)
    (host : σ)
    (occurrences : List (Occurrence σ)) :
    (reached data host occurrences).output = output occurrences := by
  simp [reached, Session.output, output]

/-- The session after one occurrence more. -/
theorem reached_snoc
    (data : Scope)
    (host : σ)
    (before : List (Occurrence σ))
    (occurrence : Occurrence σ) :
    reached data host (before ++ [occurrence]) =
      { reached data host before with
        budget :=
          { (reached data host before).budget with
            loopIterations :=
              iterations before + if occurrence.isIteration then 1 else 0
            outputSize :=
              (output before).utf8ByteSize + occurrence.text.utf8ByteSize }
        pieces :=
          (pieces [occurrence]).map Piece.text ++ (reached data host before).pieces
        host := hostAfter (hostAfter host before) [occurrence] } := by
  cases occurrence <;>
    simp [reached, pieces, hostAfter_append, String.utf8ByteSize_append,
      Occurrence.isIteration, Occurrence.text]

/-- A further occurrence within the limits is charged to the session. -/
theorem charge_reached
    {before : List (Occurrence σ)}
    {occurrence : Occurrence σ}
    (data : Scope)
    (host : σ)
    (within : Within limits (before ++ [occurrence])) :
    occurrence.charge limits (reached data host before) =
      .ok () (reached data host (before ++ [occurrence])) := by
  obtain ⟨few, shallow, flat, short⟩ := within
  rw [reached_snoc]
  cases occurrence with
  | block depth =>
      have bound := shallow depth (by simp)
      simp [Occurrence.charge, bound, reached, Occurrence.isIteration,
        Occurrence.text, pieces, hostAfter]
  | call depth =>
      have bound := flat depth (by simp)
      simp [Occurrence.charge, bound, reached, Occurrence.isIteration,
        Occurrence.text, pieces, hostAfter]
  | iteration =>
      have bound : (iterations before : Int) + 1 ≤ limits.loopIterations := by
        simp [Occurrence.isIteration] at few
        omega
      simp [Occurrence.charge, Budget.countIteration, charge_spend, bound, reached,
        Occurrence.isIteration, Occurrence.text, pieces, hostAfter]
  | hostCall name arguments context next =>
      simp [Occurrence.charge, reached, Occurrence.isIteration,
        Occurrence.text, pieces, hostAfter]
  | emission piece =>
      have bound :
          ((output before).utf8ByteSize : Int) + piece.text.utf8ByteSize ≤
            limits.outputSize := by
        simp [Occurrence.text, String.utf8ByteSize_append] at short
        omega
      simp [Occurrence.charge, emit_apply, bound, reached, Occurrence.isIteration,
        Occurrence.text, pieces, hostAfter]

/-- An occurrence that exceeds a limit ends the render with its error, and the
host stays as it was. -/
theorem charge_exceeds
    {before : List (Occurrence σ)}
    {occurrence : Occurrence σ}
    {error : Error}
    (data : Scope)
    (host : σ)
    (exceeds : Exceeds limits before occurrence error) :
    ∃ final : Session σ,
      occurrence.charge limits (reached data host before) =
          .error (.error error) final ∧
        final.host = hostAfter host before := by
  cases exceeds with
  | block deep =>
      refine ⟨_, if_neg (Int.not_le.2 deep), rfl⟩
  | call deep =>
      refine ⟨_, if_neg (Int.not_le.2 deep), rfl⟩
  | iteration many =>
      refine ⟨_, (charge_spend _ _ _ _ _).trans (if_neg ?_), rfl⟩
      simp only [reached]
      omega
  | emission long =>
      refine ⟨_, (emit_apply _ _ _).trans (if_neg ?_), rfl⟩
      simp only [reached]
      omega

/-- What happens within the limits is replayed whole. -/
theorem replay_reached
    {occurrences : List (Occurrence σ)}
    (data : Scope)
    (host : σ)
    (within : Within limits occurrences) :
    replay limits occurrences (Session.start data host) =
      .ok () (reached data host occurrences) := by
  induction occurrences using List.reverseRecOn with
  | nil => rfl
  | append_singleton earlier last inductionHypothesis =>
      rw [replay_append]
      simp only [inductionHypothesis within.of_append, replay, render_bind,
        charge_reached data host within]
      rfl

/-- The first occurrence that exceeds a limit ends the replay. -/
theorem replay_exceeds
    {before : List (Occurrence σ)}
    {occurrence : Occurrence σ}
    {error : Error}
    (after : List (Occurrence σ))
    (data : Scope)
    (host : σ)
    (within : Within limits before)
    (exceeds : Exceeds limits before occurrence error) :
    ∃ final : Session σ,
      replay limits (before ++ occurrence :: after) (Session.start data host) =
          .error (.error error) final ∧
        final.host = hostAfter host before := by
  obtain ⟨final, charged, sameHost⟩ := charge_exceeds data host exceeds
  refine ⟨final, ?_, sameHost⟩
  rw [replay_append]
  simp only [replay_reached data host within, replay, render_bind, charged]

/-- A render is its run within limits, from a fresh session. -/
theorem renderTemplate_apply
    (environment : Environment σ)
    (data : Scope)
    (template : Template)
    (session : Session σ) :
    Render.renderTemplate environment data template session =
      match bounded environment.limits (renderTemplate environment data template)
          (Session.start data session.host) with
      | .ok _ final => .ok final.output final
      | .error failure final => .error failure final := by
  have run := renderAll_follows environment template (.start data)
    (Session.start data session.host) rfl
  rw [renderTemplate_start, run]
  rfl

section Start

variable (data : Scope) (host : σ) (computation : Unbounded σ α)

/-- A run that ends with a value within the limits does so when it is bounded. -/
theorem bounded_of_within
    {value : α}
    (ended : (computation.run host).outcome = .ok value)
    (within : Within limits (computation.run host).occurrences) :
    bounded limits computation (Session.start data host) =
      .ok value (reached data host (computation.run host).occurrences) := by
  have sameHost : (Session.start data host).host = host := rfl
  simp only [bounded, sameHost, replay_reached data host within, ended]

/-- A run that fails within limits fails so when it is bounded, and the host has
made no further step. -/
theorem bounded_of_fails
    {before : List (Occurrence σ)}
    {failure : Failure}
    (fails : Fails limits (computation.run host) before failure) :
    ∃ final : Session σ,
      bounded limits computation (Session.start data host) =
          .error failure final ∧
        final.host = hostAfter host before := by
  have sameHost : (Session.start data host).host = host := rfl
  cases fails with
  | @exceeded _ after occurrence error whole within exceeds =>
      obtain ⟨final, replayed, left⟩ :=
        replay_exceeds after data host within exceeds
      refine ⟨final, ?_, left⟩
      simp only [bounded, sameHost, whole, replayed]
  | ended within ended =>
      refine ⟨reached data host (computation.run host).occurrences, ?_, rfl⟩
      simp only [bounded, sameHost, replay_reached data host within, ended]

/-- Every run ends with a value within the limits, or it fails within them. -/
theorem within_or_fails (limits : Limits) :
    (∃ value, (computation.run host).outcome = .ok value ∧
        Within limits (computation.run host).occurrences) ∨
      ∃ before failure, Fails limits (computation.run host) before failure := by
  rcases within_or_exceeds limits (computation.run host).occurrences with
    within | ⟨before, occurrence, after, error, whole, within, exceeds⟩
  · cases ended : (computation.run host).outcome with
    | ok value => exact .inl ⟨value, rfl, within⟩
    | error failure => exact .inr ⟨_, failure, .ended within ended⟩
  · exact .inr ⟨before, .error error, .exceeded whole within exceeds⟩

end Start

section Render

variable (environment : Environment σ) (data : Scope) (template : Template)
  (session : Session σ)

/-- A template whose run ends within the limits is rendered whole. -/
theorem renderTemplate_of_within
    (ended :
      ((renderTemplate environment data template).run session.host).outcome =
        .ok ())
    (within :
      Within environment.limits
        ((renderTemplate environment data template).run session.host).occurrences) :
    Render.renderTemplate environment data template session =
      .ok
        (output
          ((renderTemplate environment data template).run session.host).occurrences)
        (reached data session.host
          ((renderTemplate environment data template).run
            session.host).occurrences) := by
  rw [renderTemplate_apply, bounded_of_within data session.host _ ended within]
  simp only [output_reached]

/-- A template whose run fails within the limits fails so when it is rendered. -/
theorem renderTemplate_of_fails
    {before : List (Occurrence σ)}
    {failure : Failure}
    (fails :
      Fails environment.limits
        ((renderTemplate environment data template).run session.host)
        before failure) :
    ∃ final,
      Render.renderTemplate environment data template session =
          .error failure final ∧
        final.host = hostAfter session.host before := by
  obtain ⟨final, stopped, left⟩ := bounded_of_fails data session.host _ fails
  exact ⟨final, by rw [renderTemplate_apply, stopped], left⟩

/-- A render that gives an output has come to the end of the run. -/
theorem reached_of_renderTemplate
    {text : String}
    {final : Session σ}
    (rendered :
      Render.renderTemplate environment data template session = .ok text final) :
    let course := (renderTemplate environment data template).run session.host
    course.outcome = .ok () ∧
      Within environment.limits course.occurrences ∧
      text = output course.occurrences ∧
      final = reached data session.host course.occurrences := by
  rcases within_or_fails session.host (renderTemplate environment data template)
    environment.limits with ⟨value, ended, within⟩ | ⟨before, failure, fails⟩
  · rw [renderTemplate_of_within _ _ _ _ ended within] at rendered
    cases rendered
    exact ⟨ended, within, rfl, rfl⟩
  · obtain ⟨stop, stopped, _⟩ := renderTemplate_of_fails _ _ _ _ fails
    rw [stopped] at rendered
    cases rendered

/-- A render refines the run without a budget. It gives an output exactly when
the run ends with that output and stays within the limits, and it fails exactly
as the run fails within the limits: with the error of the first occurrence that
exceeds a limit, or with the failure of the run before that. Either way the
functions of the host have run as far as in the run up to there. -/
theorem renderTemplate_refines
    (environment : Environment σ)
    (data : Scope)
    (template : Template)
    (session : Session σ) :
    let course := (renderTemplate environment data template).run session.host
    (∀ text host,
      (∃ final,
        Render.renderTemplate environment data template session =
            .ok text final ∧
          final.host = host) ↔
        course.outcome = .ok () ∧ output course.occurrences = text ∧
          Within environment.limits course.occurrences ∧
          hostAfter session.host course.occurrences = host) ∧
      ∀ failure host,
        (∃ final,
          Render.renderTemplate environment data template session =
              .error failure final ∧
            final.host = host) ↔
          ∃ before, Fails environment.limits course before failure ∧
            hostAfter session.host before = host := by
  intro course
  constructor
  · intro text host
    constructor
    · rintro ⟨final, rendered, rfl⟩
      obtain ⟨ended, within, rfl, rfl⟩ :=
        reached_of_renderTemplate environment data template session rendered
      exact ⟨ended, rfl, within, rfl⟩
    · rintro ⟨ended, rfl, within, rfl⟩
      exact ⟨_, renderTemplate_of_within _ _ _ _ ended within, rfl⟩
  · intro failure host
    constructor
    · rintro ⟨final, rendered, rfl⟩
      rcases within_or_fails session.host (renderTemplate environment data template)
        environment.limits with ⟨value, ended, within⟩ | ⟨before, reason, fails⟩
      · rw [renderTemplate_of_within _ _ _ _ ended within] at rendered
        cases rendered
      · obtain ⟨stop, stopped, left⟩ := renderTemplate_of_fails _ _ _ _ fails
        rw [stopped] at rendered
        cases rendered
        exact ⟨before, fails, left.symm⟩
    · rintro ⟨before, fails, rfl⟩
      exact renderTemplate_of_fails _ _ _ _ fails

end Render

end Unbounded
end Templating
