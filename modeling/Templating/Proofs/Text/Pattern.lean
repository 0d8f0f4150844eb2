import Templating.Text.Pattern

/-!
# What patterns describe

The texts that a pattern describes, apart from any way to match them. A pattern matches
just these texts.
-/

namespace Templating
namespace Text
namespace Pattern

/-- A pattern describes a text. -/
inductive Describes : Pattern → List Char → Prop
  | nothing : Describes .nothing []
  | one
      {accepts : Char → Bool}
      {character : Char}
      (accepted : accepts character = true) :
      Describes (.one accepts) [character]
  | many
      {accepts : Char → Bool}
      {text : List Char}
      (accepted : ∀ character ∈ text, accepts character = true) :
      Describes (.many accepts) text
  | behind
      {first second : Pattern}
      {front back : List Char}
      (frontDescribed : Describes first front)
      (backDescribed : Describes second back) :
      Describes (.behind first second) (front ++ back)
  | first
      {first second : Pattern}
      {text : List Char}
      (described : Describes first text) :
      Describes (.either first second) text
  | second
      {first second : Pattern}
      {text : List Char}
      (described : Describes second text) :
      Describes (.either first second) text

variable {accepts : Char → Bool} {pattern first second : Pattern} {text rest : List Char}

theorem describes_nothing_iff : Describes .nothing text ↔ text = [] :=
  ⟨fun described => by cases described; rfl, fun empty => empty ▸ .nothing⟩

theorem describes_one_iff :
    Describes (.one accepts) text ↔
      ∃ character, accepts character = true ∧ text = [character] := by
  constructor
  · intro described
    cases described with
    | one accepted => exact ⟨_, accepted, rfl⟩
  · rintro ⟨character, accepted, rfl⟩
    exact .one accepted

theorem describes_many_iff :
    Describes (.many accepts) text ↔ ∀ character ∈ text, accepts character = true :=
  ⟨fun described => by cases described with | many accepted => exact accepted, .many⟩

theorem describes_behind_iff :
    Describes (.behind first second) text ↔
      ∃ front back, first.Describes front ∧ second.Describes back ∧ text = front ++ back := by
  constructor
  · intro described
    cases described with
    | behind frontDescribed backDescribed =>
        exact ⟨_, _, frontDescribed, backDescribed, rfl⟩
  · rintro ⟨front, back, frontDescribed, backDescribed, rfl⟩
    exact .behind frontDescribed backDescribed

theorem describes_either_iff :
    Describes (.either first second) text ↔ first.Describes text ∨ second.Describes text := by
  constructor
  · intro described
    cases described with
    | first described => exact .inl described
    | second described => exact .inr described
  · exact fun described => described.elim .first .second

theorem describes_optional_iff :
    (optional pattern).Describes text ↔ pattern.Describes text ∨ text = [] := by
  rw [optional, describes_either_iff, describes_nothing_iff]

theorem describes_some_iff :
    (some accepts).Describes text ↔
      text ≠ [] ∧ ∀ character ∈ text, accepts character = true := by
  simp only [some, describes_behind_iff, describes_one_iff, describes_many_iff]
  constructor
  · rintro ⟨_, back, ⟨character, accepted, rfl⟩, others, rfl⟩
    exact ⟨List.cons_ne_nil _ _, List.forall_mem_cons.2 ⟨accepted, others⟩⟩
  · rintro ⟨nonempty, accepted⟩
    obtain ⟨character, others, rfl⟩ := List.exists_cons_of_ne_nil nonempty
    obtain ⟨here, behind⟩ := List.forall_mem_cons.1 accepted
    exact ⟨[character], others, ⟨character, here, rfl⟩, behind, rfl⟩

/-- Characters of a class leave what is behind any number of them. -/
theorem mem_manyRests_iff {found : List (List Char)} :
    rest ∈ manyRests accepts found text ↔
      rest ∈ found ∨
        ∃ front, (∀ character ∈ front, accepts character = true) ∧ text = front ++ rest := by
  fun_induction manyRests accepts found text with
  | case1 found =>
      simp only [List.mem_cons, List.nil_eq, List.append_eq_nil_iff]
      constructor
      · rintro (rfl | old)
        · exact .inr ⟨[], by simp, rfl, rfl⟩
        · exact .inl old
      · rintro (old | ⟨_, -, -, rfl⟩)
        · exact .inr old
        · exact .inl rfl
  | case2 found character others accepted inductionHypothesis =>
      rw [inductionHypothesis, List.mem_cons, or_assoc, or_left_comm]
      refine or_congr_right ⟨?_, ?_⟩
      · rintro (rfl | ⟨front, inside, rfl⟩)
        · exact ⟨[], by simp, rfl⟩
        · exact ⟨character :: front, List.forall_mem_cons.2 ⟨accepted, inside⟩, rfl⟩
      · rintro ⟨_ | ⟨_, front⟩, inside, same⟩
        · exact .inl same.symm
        · obtain ⟨rfl, rfl⟩ := List.cons.inj same
          exact .inr ⟨front, (List.forall_mem_cons.1 inside).2, rfl⟩
  | case3 found character others refused =>
      rw [List.mem_cons, or_comm]
      refine or_congr_right ⟨?_, ?_⟩
      · rintro rfl
        exact ⟨[], by simp, rfl⟩
      · rintro ⟨_ | ⟨_, front⟩, inside, same⟩
        · exact same.symm
        · obtain ⟨rfl, rfl⟩ := List.cons.inj same
          exact absurd (inside _ List.mem_cons_self) refused

/-- What a pattern leaves of a text stands behind a text that it describes. -/
theorem mem_rests_iff :
    rest ∈ pattern.rests text ↔ ∃ front, pattern.Describes front ∧ text = front ++ rest := by
  induction pattern generalizing text rest with
  | nothing => simp [rests, describes_nothing_iff, eq_comm]
  | one accepts =>
      cases text with
      | nil =>
          simp only [rests, List.not_mem_nil, describes_one_iff, false_iff]
          rintro ⟨_, ⟨character, -, rfl⟩, same⟩
          cases same
      | cons character others =>
          simp only [rests, List.mem_ite_nil_right, List.mem_singleton, describes_one_iff]
          constructor
          · rintro ⟨accepted, rfl⟩
            exact ⟨[character], ⟨character, accepted, rfl⟩, rfl⟩
          · rintro ⟨_, ⟨_, accepted, rfl⟩, same⟩
            cases same
            exact ⟨accepted, rfl⟩
  | many accepts => simp [rests, mem_manyRests_iff, describes_many_iff]
  | behind first second firstHypothesis secondHypothesis =>
      simp only [rests, List.mem_flatMap, firstHypothesis, secondHypothesis,
        describes_behind_iff]
      constructor
      · rintro ⟨_, ⟨front, frontDescribed, rfl⟩, back, backDescribed, rfl⟩
        exact ⟨front ++ back, ⟨front, back, frontDescribed, backDescribed, rfl⟩,
          (List.append_assoc ..).symm⟩
      · rintro ⟨_, ⟨front, back, frontDescribed, backDescribed, rfl⟩, rfl⟩
        exact ⟨back ++ rest, ⟨front, frontDescribed, List.append_assoc ..⟩, back,
          backDescribed, rfl⟩
  | either first second firstHypothesis secondHypothesis =>
      simp only [rests, List.mem_append, firstHypothesis, secondHypothesis,
        describes_either_iff, or_and_right, exists_or]

/-- A text matches a pattern exactly when the pattern describes it. -/
theorem isMatch_iff : pattern.isMatch text = true ↔ pattern.Describes text := by
  simp only [isMatch, List.any_eq_true, mem_rests_iff, List.isEmpty_iff]
  constructor
  · rintro ⟨_, ⟨front, described, rfl⟩, rfl⟩
    rwa [List.append_nil]
  · exact fun described => ⟨[], ⟨text, described, (List.append_nil _).symm⟩, rfl⟩

end Pattern
end Text
end Templating
