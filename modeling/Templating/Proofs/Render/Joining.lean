import Templating.Proofs.Render.Stateless
import Templating.Proofs.Template.Joining

/-!
# The runs of joined templates

A template behind another one runs behind it: the variables in scope and the numbers of
blocks and calls are those of the beginning again, and what was counted and emitted adds
up. That text at the seam is emitted at once makes no difference to its size.
-/

namespace Templating
namespace Unbounded

variable {σ : Type}

/-- Iterations and output add up, but the depths of blocks and calls do not. -/
theorem within_append
    {limits : Limits}
    {occurrences others : List (Occurrence σ)} :
    Within limits (occurrences ++ others) ↔
      Within limits occurrences ∧ Within limits others ∧
        iterations occurrences + iterations others ≤ limits.loopIterations ∧
        (output occurrences).utf8ByteSize + (output others).utf8ByteSize ≤
          limits.outputSize := by
  constructor
  · intro whole
    have total := whole.iterations
    have size := whole.output
    rw [iterations_append] at total
    rw [output_append, String.utf8ByteSize_append] at size
    refine ⟨whole.of_append, ⟨by omega, ?_, ?_, by omega⟩, total, size⟩
    · exact fun depth member => whole.blocks depth (List.mem_append_right _ member)
    · exact fun depth member => whole.calls depth (List.mem_append_right _ member)
  · rintro ⟨first, second, total, size⟩
    refine ⟨by rwa [iterations_append], fun depth member => ?_, fun depth member => ?_,
      by rwa [output_append, String.utf8ByteSize_append]⟩
    · exact (List.mem_append.1 member).elim (first.blocks depth) (second.blocks depth)
    · exact (List.mem_append.1 member).elim (first.calls depth) (second.calls depth)

/-- A computation that agrees with two others in a row ends when both do, and what
happens in it is what happens in them. -/
theorem Agree.sequence
    {computation first second : Unbounded σ Unit}
    (joined :
      Agree computation (do
        first
        second))
    (stateless : Agree second second)
    (host firstHost secondHost : σ) :
    ((computation.run host).outcome = .ok () ↔
      (first.run firstHost).outcome = .ok () ∧
        (second.run secondHost).outcome = .ok ()) ∧
      ((first.run firstHost).outcome = .ok () →
        SameCharges (computation.run host).occurrences
          ((first.run firstHost).occurrences ++ (second.run secondHost).occurrences)) := by
  obtain ⟨sameEnd, charges⟩ := joined host firstHost
  rw [run_bind] at sameEnd charges
  rw [sameEnd]
  cases ended : (first.run firstHost).outcome with
  | error failure => simp
  | ok value =>
      rw [ended] at charges
      -- The second one goes on from the state in which the first one left the host.
      obtain ⟨sameEnding, sameRest⟩ :=
        stateless (hostAfter firstHost (first.run firstHost).occurrences) secondHost
      refine ⟨?_, fun _ => charges.trans (.append (.refl _) sameRest)⟩
      simp [sameEnding]

/-- Two texts that are emitted at once. -/
theorem agree_texts (content further : String) :
    Agree (σ := σ)
      (record (.emission (.literal (content ++ further))))
      (do
        record (.emission (.literal content))
        record (.emission (.literal further))) := by
  intro host otherHost
  refine ⟨rfl, rfl, ?_, fun depth => ?_, fun depth => ?_⟩
  · simp [record, bind, Occurrence.text, Piece.text]
  · simp [record, bind]
  · simp [record, bind]

variable {environment : Environment σ}

/-- A template behind another one runs behind it. -/
theorem renderAll_join
    (stateless : environment.registry.IsStateless)
    (template other : Template)
    (surroundings : Surroundings) :
    Agree (renderAll environment (template.join other) surroundings)
      (do
        renderAll environment template surroundings
        renderAll environment other surroundings) := by
  have runs := (statelessInvariant stateless).renderAll
  fun_induction Template.join template other with
  | case1 other => exact runs other surroundings
  | case2 content further rest =>
      have joined :=
        (agree_texts content further).bind fun _ => runs rest surroundings
      rw [bind_assoc] at joined
      simpa [renderAll, renderNode] using joined
  | case3 node rest other apart inductionHypothesis =>
      rw [renderAll, renderAll, bind_assoc]
      exact ((statelessInvariant stateless).renderNode node surroundings).bind fun _ =>
        inductionHypothesis

section Render

variable (stateless : environment.registry.IsStateless) (data : Scope)
  (template other : Template) (session firstSession secondSession : Session σ)

include stateless

/-- When a template behind another one is rendered, both of them are, and what they give
is what the two give together. -/
theorem renderTemplate_of_join
    {text : String}
    {final : Session σ}
    (rendered :
      Render.renderTemplate environment data (template.join other) session =
        .ok text final) :
    ∃ front frontFinal rest restFinal,
      Render.renderTemplate environment data template firstSession =
          .ok front frontFinal ∧
        Render.renderTemplate environment data other secondSession =
          .ok rest restFinal ∧
        text = front ++ rest := by
  obtain ⟨ended, within, rfl, -⟩ := reached_of_renderTemplate _ _ _ _ rendered
  obtain ⟨ends, charges⟩ :=
    (renderAll_join stateless template other (.start data)).sequence
      ((statelessInvariant stateless).renderAll other (.start data))
      session.host firstSession.host secondSession.host
  obtain ⟨firstEnded, secondEnded⟩ := ends.1 ended
  have same := charges firstEnded
  obtain ⟨firstWithin, secondWithin, -⟩ := within_append.1 (same.within within)
  exact ⟨_, _, _, _, renderTemplate_of_within _ _ _ _ firstEnded firstWithin,
    renderTemplate_of_within _ _ _ _ secondEnded secondWithin,
    same.output.trans (output_append _ _)⟩

/-- When two templates are rendered, the one behind the other is rendered, as long as
their iterations and their output are together within the limits. -/
theorem renderTemplate_join
    {front rest : String}
    {frontFinal restFinal : Session σ}
    (rendered :
      Render.renderTemplate environment data template firstSession = .ok front frontFinal)
    (further :
      Render.renderTemplate environment data other secondSession = .ok rest restFinal)
    (few :
      frontFinal.budget.loopIterations + restFinal.budget.loopIterations ≤
        environment.limits.loopIterations)
    (short : front.utf8ByteSize + rest.utf8ByteSize ≤ environment.limits.outputSize) :
    ∃ final,
      Render.renderTemplate environment data (template.join other) session =
        .ok (front ++ rest) final := by
  obtain ⟨firstEnded, firstWithin, rfl, rfl⟩ := reached_of_renderTemplate _ _ _ _ rendered
  obtain ⟨secondEnded, secondWithin, rfl, rfl⟩ := reached_of_renderTemplate _ _ _ _ further
  obtain ⟨ends, charges⟩ :=
    (renderAll_join stateless template other (.start data)).sequence
      ((statelessInvariant stateless).renderAll other (.start data))
      session.host firstSession.host secondSession.host
  have same := charges firstEnded
  simp only [reached] at few
  have within := same.symm.within
    (within_append.2 ⟨firstWithin, secondWithin, by exact_mod_cast few, short⟩)
  have output := same.output.trans (output_append _ _)
  have whole :=
    renderTemplate_of_within environment data (template.join other) session
      (ends.2 ⟨firstEnded, secondEnded⟩) within
  exact ⟨_, whole.trans (congrArg (EStateM.Result.ok · _) output)⟩

end Render

end Unbounded
end Templating
