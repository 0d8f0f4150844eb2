import Mathlib.Data.List.Induction
import Mathlib.Data.List.Nodup
import Templating.Proofs.Outcome
import Templating.Registry

/-!
# Registries with a history

A host installs functions, removes them and copies its registry, in any order. What is
refused changes nothing, and a copy holds what the registry held. So a name stands for
the function that was last installed under it, if it has not been removed since then.
-/

namespace Templating

/-- An entry of a new name is put behind all the others. -/
theorem Entries.put_of_notMem
    {α : Type}
    {entries : Entries α}
    {name : String}
    (absent : name ∉ entries.names)
    (value : α) :
    entries.put name value = entries ++ [(name, value)] := by
  induction entries with
  | nil => rfl
  | cons entry rest inductionHypothesis =>
      obtain ⟨key, old⟩ := entry
      simp only [names_cons, List.mem_cons, not_or] at absent
      rw [put, if_neg (Ne.symm absent.1), inductionHypothesis absent.2, List.cons_append]

namespace Registry

variable {σ : Type}

/-- What a host does with a registry. -/
inductive Operation (σ : Type)
  | register (name : String) (candidate : Candidate σ)
  | unregister (name : String)
  | copy

/-- The registry after an operation. What is refused leaves it as it is. -/
def perform (registry : Registry σ) : Operation σ → Registry σ
  | .register name candidate =>
      match registry.register name candidate with
      | .ok next => next
      | .error _ => registry
  | .unregister name => registry.unregister name
  | .copy =>
      match registry.copy with
      | .ok next => next
      | .error _ => registry

/-- The registry after a number of operations, of which the first one finds no
functions. -/
def after (operations : List (Operation σ)) : Registry σ :=
  operations.foldl perform empty

@[simp] theorem after_snoc
    (operations : List (Operation σ))
    (operation : Operation σ) :
    after (operations ++ [operation]) = (after operations).perform operation := by
  simp [after]

/-- A function is installed under a name, or the name is removed. -/
def Operation.Concerns (name : String) : Operation σ → Prop
  | .register other (.function _) => other = name
  | .register _ (.value _) => False
  | .unregister other => other = name
  | .copy => False

/-- A function is the last one that was installed under a name, and the name has not been
removed since then. -/
def LastRegistered
    (operations : List (Operation σ))
    (name : String)
    (function : HostFunction σ) :
    Prop :=
  ∃ earlier later,
    operations = earlier ++ .register name (.function function) :: later ∧
      ∀ operation ∈ later, ¬operation.Concerns name

theorem register_of_isFunctionName
    {name : String}
    (isValid : isFunctionName name = true)
    (registry : Registry σ)
    (function : HostFunction σ) :
    registry.register name (.function function) =
      .ok (registry.insert name function isValid) := by
  rw [register, dif_pos isValid]

/-- A function is installed exactly under the names that an expression can call. -/
theorem register_function_eq_ok
    (registry : Registry σ)
    (name : String)
    (function : HostFunction σ) :
    (∃ next, registry.register name (.function function) = .ok next) ↔
      isFunctionName name = true := by
  constructor
  · rintro ⟨next, installed⟩
    by_contra notValid
    rw [register, dif_neg notValid] at installed
    cases installed
  · exact fun isValid => ⟨_, register_of_isFunctionName isValid registry function⟩

/-- Functions that are the last ones of a registry are installed behind the first ones. -/
theorem foldlM_register
    {rest : Entries (HostFunction σ)}
    {registry whole : Registry σ}
    (split : whole.entries = registry.entries ++ rest) :
    rest.foldlM (fun registry entry => registry.register entry.1 (.function entry.2))
        registry =
      .ok whole := by
  induction rest generalizing registry with
  | nil =>
      obtain ⟨entries, valid, distinct⟩ := registry
      obtain ⟨wholeEntries, wholeValid, wholeDistinct⟩ := whole
      rw [List.append_nil] at split
      subst split
      rfl
  | cons entry rest inductionHypothesis =>
      obtain ⟨name, function⟩ := entry
      have distinct := whole.distinct
      have valid := whole.valid name (by simp [split, Entries.names])
      rw [split] at distinct
      have absent : name ∉ registry.entries.names := by
        simp only [Entries.names, List.map_append, List.map_cons] at distinct ⊢
        exact fun early => List.disjoint_of_nodup_append distinct early List.mem_cons_self
      rw [List.foldlM_cons, register_of_isFunctionName valid]
      refine inductionHypothesis ?_
      change _ = registry.entries.put name function ++ rest
      rw [split, Entries.put_of_notMem absent, List.append_assoc, List.singleton_append]

/-- A copy is made without being refused, and it holds the same functions in the same
order. -/
theorem copy_eq (registry : Registry σ) : registry.copy = .ok registry :=
  foldlM_register rfl

theorem perform_register_value (registry : Registry σ) (name : String) (value : Value) :
    registry.perform (.register name (.value value)) = registry := by
  rw [perform, register]
  by_cases isValid : isFunctionName name = true
  · rw [dif_pos isValid]
  · rw [dif_neg isValid]

/-- An operation that does not concern a name leaves what the name stands for. -/
theorem find?_perform_of_not_concerns
    {operation : Operation σ}
    {name : String}
    (unconcerned : ¬operation.Concerns name)
    (registry : Registry σ) :
    (registry.perform operation).find? name = registry.find? name := by
  cases operation with
  | register other candidate =>
      cases candidate with
      | value value => rw [perform_register_value]
      | function function =>
          have different : other ≠ name := unconcerned
          by_cases isValid : isFunctionName other = true
          · simp only [perform, register_of_isFunctionName isValid]
            rw [find?_insert, if_neg different]
          · simp only [perform, register, dif_neg isValid]
  | unregister other =>
      have different : other ≠ name := unconcerned
      rw [perform, find?_unregister, if_neg different]
  | copy => rw [perform, copy_eq]

/-- After an operation that concerns a name, the name stands for the function that was
installed, or for nothing. -/
theorem find?_perform_of_concerns
    {operation : Operation σ}
    {name : String}
    (concerned : operation.Concerns name)
    (isValid : isFunctionName name = true)
    (registry : Registry σ)
    (function : HostFunction σ) :
    (registry.perform operation).find? name = some function ↔
      operation = .register name (.function function) := by
  cases operation with
  | register other candidate =>
      cases candidate with
      | value value => cases concerned
      | function installed =>
          obtain rfl : other = name := concerned
          simp only [perform, register_of_isFunctionName isValid]
          rw [find?_insert, if_pos rfl]
          simp
  | unregister other =>
      obtain rfl : other = name := concerned
      rw [perform, find?_unregister, if_pos rfl]
      simp
  | copy => cases concerned

/-- Only an operation that concerns a name changes which function was last installed under
it. -/
theorem lastRegistered_snoc
    (operations : List (Operation σ))
    (operation : Operation σ)
    (name : String)
    (function : HostFunction σ) :
    LastRegistered (operations ++ [operation]) name function ↔
      operation = .register name (.function function) ∨
        ¬operation.Concerns name ∧ LastRegistered operations name function := by
  constructor
  · rintro ⟨earlier, later, split, unconcerned⟩
    rcases List.eq_nil_or_concat later with rfl | ⟨before, last, rfl⟩
    · left
      simpa using (List.append_inj' split rfl).2
    · right
      rw [List.concat_eq_append, ← List.cons_append, ← List.append_assoc] at split
      obtain ⟨rfl, same⟩ := List.append_inj' split rfl
      obtain rfl := List.singleton_inj.1 same
      rw [List.concat_eq_append, List.forall_mem_append] at unconcerned
      exact ⟨unconcerned.2 _ List.mem_cons_self, earlier, before, rfl, unconcerned.1⟩
  · rintro (rfl | ⟨unconcerned, earlier, later, rfl, others⟩)
    · exact ⟨operations, [], rfl, fun _ absent => absurd absent List.not_mem_nil⟩
    · refine ⟨earlier, later ++ [operation], by simp, ?_⟩
      exact List.forall_mem_append.2 ⟨others, by simpa using unconcerned⟩

/-- A name stands for the function that was last installed under it. -/
theorem find?_after
    {name : String}
    (isValid : isFunctionName name = true)
    (operations : List (Operation σ))
    (function : HostFunction σ) :
    (after operations).find? name = some function ↔
      LastRegistered operations name function := by
  induction operations using List.reverseRecOn with
  | nil => simp [after, LastRegistered]
  | append_singleton operations operation inductionHypothesis =>
      rw [after_snoc, lastRegistered_snoc]
      by_cases concerned : operation.Concerns name
      · rw [find?_perform_of_concerns concerned isValid]
        simp [concerned]
      · have different : operation ≠ .register name (.function function) := by
          rintro rfl
          exact concerned rfl
        rw [find?_perform_of_not_concerns concerned, inductionHypothesis]
        simp [concerned, different]

end Registry
end Templating
