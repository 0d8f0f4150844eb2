import Templating.Proofs.Render.Alike
import Templating.Proofs.Render.Invariant
import Templating.Proofs.Render.Refinement

/-!
# Runs with functions that have no state

Two runs are the same to a budget and to a reader of the output when they end alike, with
the same output, as many iterations, and blocks and calls of the same depths. When the
functions of the host answer without regard to its state, a run is the same in this sense
wherever the host begins.
-/

namespace Templating
namespace Unbounded

variable {σ α β : Type}

/-- What happens in two runs is the same to a budget and to a reader of the output. -/
structure SameCharges (occurrences others : List (Occurrence σ)) : Prop where
  iterations : iterations occurrences = iterations others
  output : output occurrences = output others
  blocks : ∀ depth : Int, .block depth ∈ occurrences ↔ .block depth ∈ others
  calls : ∀ depth : Int, .call depth ∈ occurrences ↔ .call depth ∈ others

namespace SameCharges

variable {occurrences others more : List (Occurrence σ)} {limits : Limits}

theorem refl (occurrences : List (Occurrence σ)) : SameCharges occurrences occurrences :=
  ⟨rfl, rfl, fun _ => .rfl, fun _ => .rfl⟩

theorem symm (same : SameCharges occurrences others) : SameCharges others occurrences where
  iterations := same.iterations.symm
  output := same.output.symm
  blocks depth := (same.blocks depth).symm
  calls depth := (same.calls depth).symm

theorem trans
    (same : SameCharges occurrences others)
    (further : SameCharges others more) :
    SameCharges occurrences more where
  iterations := same.iterations.trans further.iterations
  output := same.output.trans further.output
  blocks depth := (same.blocks depth).trans (further.blocks depth)
  calls depth := (same.calls depth).trans (further.calls depth)

theorem append
    {front front' : List (Occurrence σ)}
    (first : SameCharges front front')
    (second : SameCharges occurrences others) :
    SameCharges (front ++ occurrences) (front' ++ others) where
  iterations := by
    rw [iterations_append, iterations_append, first.iterations, second.iterations]
  output := by rw [output_append, output_append, first.output, second.output]
  blocks depth := by
    rw [List.mem_append, List.mem_append, first.blocks, second.blocks]
  calls depth := by
    rw [List.mem_append, List.mem_append, first.calls, second.calls]

/-- The state in which a function leaves the host is not seen. -/
theorem hostCall
    (name : String)
    (arguments : List Value)
    (context : CallContext)
    (host other : σ) :
    SameCharges [.hostCall name arguments context host]
      [.hostCall name arguments context other] where
  iterations := rfl
  output := by simp [Occurrence.text]
  blocks := by simp
  calls := by simp

theorem within
    (same : SameCharges occurrences others)
    (within : Within limits occurrences) :
    Within limits others where
  iterations := same.iterations ▸ within.iterations
  blocks depth member := within.blocks depth ((same.blocks depth).2 member)
  calls depth member := within.calls depth ((same.calls depth).2 member)
  output := same.output ▸ within.output

end SameCharges

/-- Wherever the host begins, two computations end alike, and what happens in them is the
same to a budget and to a reader of the output. -/
def Agree (computation other : Unbounded σ α) : Prop :=
  ∀ host otherHost : σ,
    (computation.run host).outcome = (other.run otherHost).outcome ∧
      SameCharges (computation.run host).occurrences (other.run otherHost).occurrences

namespace Agree

variable {computation other : Unbounded σ α}

theorem pure (value : α) : Agree (Pure.pure value : Unbounded σ α) (Pure.pure value) :=
  fun _ _ => ⟨rfl, .refl _⟩

theorem fail (failure : Failure) :
    Agree (Unbounded.fail failure : Unbounded σ α) (Unbounded.fail failure) :=
  fun _ _ => ⟨rfl, .refl _⟩

theorem record (occurrence : Occurrence σ) :
    Agree (record occurrence) (record occurrence) :=
  fun _ _ => ⟨rfl, .refl _⟩

theorem bind
    {next otherNext : α → Unbounded σ β}
    (agree : Agree computation other)
    (nextAgree : ∀ value, Agree (next value) (otherNext value)) :
    Agree (computation >>= next) (other >>= otherNext) := by
  intro host otherHost
  obtain ⟨sameOutcome, sameCharges⟩ := agree host otherHost
  rw [run_bind, run_bind, ← sameOutcome]
  cases (computation.run host).outcome with
  | error failure => exact ⟨rfl, sameCharges⟩
  | ok value =>
      obtain ⟨sameEnd, further⟩ := nextAgree value
        (hostAfter host (computation.run host).occurrences)
        (hostAfter otherHost (other.run otherHost).occurrences)
      exact ⟨sameEnd, sameCharges.append further⟩

theorem callHost
    {environment : Environment σ}
    (stateless : environment.registry.IsStateless)
    (name : String)
    (arguments : List Value)
    (position : Int) :
    Agree (callHost environment name arguments position)
      (Unbounded.callHost environment name arguments position) := by
  intro host otherHost
  unfold Unbounded.callHost
  cases found : environment.registry.find? name with
  | none => exact ⟨rfl, .refl _⟩
  | some function =>
      have same := stateless name function found arguments
        { limits := environment.limits, position, source := environment.source }
        host otherHost
      dsimp only
      generalize function arguments _ host = result at same ⊢
      generalize function arguments _ otherHost = otherResult at same ⊢
      cases result <;> cases otherResult <;> cases same
      · exact ⟨rfl, .hostCall ..⟩
      · exact ⟨rfl, .hostCall ..⟩

end Agree

/-- When the functions of the host have no state, every run is the same wherever the host
begins. -/
def statelessInvariant
    {environment : Environment σ}
    (stateless : environment.registry.IsStateless) :
    Invariant environment where
  Holds computation := Agree computation computation
  pure := .pure
  fail := .fail
  bind := .bind
  call _ := .record _
  callHost := .callHost stateless
  block _ := .record _
  iteration := .record _
  emission _ := .record _

end Unbounded
end Templating
