import Mathlib.Data.List.Perm.Basic
import Templating.Settings.Limits

/-!
# What settings give for the limits

Settings give limits when every key names one of them and none is given twice: under
either spelling, a limit that is given is the number that its value is read as, and the
others keep their standard value. This says nothing of the order of the keys and of how
they are spelled, while a validator looks the settings up spelling by spelling.
-/

namespace Templating

/-- The limit that a key names, in either spelling. -/
def LimitName.ofKey? (key : String) : Option LimitName :=
  all.find? fun name => key = name.capitalized ∨ key = name.underscored

theorem LimitName.ofKey?_eq_some_iff (key : String) (name : LimitName) :
    ofKey? key = some name ↔ key = name.capitalized ∨ key = name.underscored := by
  constructor
  · intro named
    simpa using List.find?_some named
  · rintro (rfl | rfl) <;> cases name <;> decide

theorem LimitName.capitalized_ne_underscored (name : LimitName) :
    name.capitalized ≠ name.underscored := by
  cases name <;> decide

namespace Settings

/-- The values that are given for a limit. -/
def given (entries : Entries Value) (name : LimitName) : List Value :=
  (entries.filter fun entry => LimitName.ofKey? entry.1 = some name).map Prod.snd

/-- A limit is not given and keeps its standard value, or it is given once and is the whole
number above zero that is read. -/
def IsGiven
    (validator : Validator)
    (entries : Entries Value)
    (name : LimitName)
    (count : Int) :
    Prop :=
  (given entries name = [] ∧ count = Limits.standard.counts name) ∨
    ∃ value, given entries name = [value] ∧ validator.integer 0 value = .ok count

/-- Settings give limits. -/
structure Gives (validator : Validator) (entries : Entries Value) (counts : Counts) :
    Prop where
  known : ∀ key ∈ entries.names, ∃ name, LimitName.ofKey? key = some name
  counts : ∀ name, IsGiven validator entries name (counts name)

section

variable {entries : Entries Value}

theorem find?_eq_none_iff {key : String} :
    entries.find? key = none ↔ key ∉ entries.names := by
  rw [← Entries.find?_isSome, Option.not_isSome_iff_eq_none]

theorem given_cons_of_named
    {key : String}
    {name : LimitName}
    (named : LimitName.ofKey? key = some name)
    (value : Value) :
    given ((key, value) :: entries) name = value :: given entries name := by
  simp [given, named]

theorem given_cons_of_not_named
    {key : String}
    {name : LimitName}
    (notNamed : LimitName.ofKey? key ≠ some name)
    (value : Value) :
    given ((key, value) :: entries) name = given entries name := by
  simp [given, notNamed]

/-- What is given for a limit is what is given under its spellings. -/
theorem given_perm (distinct : entries.names.Nodup) (name : LimitName) :
    (given entries name).Perm
      ((entries.find? name.capitalized).toList ++
        (entries.find? name.underscored).toList) := by
  induction entries with
  | nil => exact .nil
  | cons entry rest inductionHypothesis =>
      obtain ⟨key, value⟩ := entry
      obtain ⟨absent, distinct⟩ := List.nodup_cons.1 distinct
      have behind := inductionHypothesis distinct
      have differ := name.capitalized_ne_underscored
      by_cases named : LimitName.ofKey? key = some name
      · rw [given_cons_of_named named]
        obtain rfl | rfl := (LimitName.ofKey?_eq_some_iff ..).1 named
        · rw [find?_eq_none_iff.2 absent] at behind
          simpa [Entries.find?, differ] using behind
        · rw [find?_eq_none_iff.2 absent] at behind
          simp only [Entries.find?, differ.symm, if_false, if_true] at behind ⊢
          simpa using (behind.cons value).trans (List.perm_append_singleton ..).symm
      · rw [given_cons_of_not_named named]
        have notNamed := mt (LimitName.ofKey?_eq_some_iff key name).2 named
        rw [not_or] at notNamed
        simpa [Entries.find?, notNamed.1, notNamed.2] using behind

variable (validator : Validator)

theorem ofKey?_of_lookup?
    {name : LimitName}
    {key : String}
    {value : Value}
    (found : (limitsModel validator).lookup? entries name = some (key, value)) :
    LimitName.ofKey? key = some name := by
  rw [LimitName.ofKey?_eq_some_iff]
  unfold Model.lookup? at found
  split at found
  · cases found
    exact .inl rfl
  · obtain ⟨_, -, same⟩ := Option.map_eq_some_iff.1 found
    cases same
    exact .inr rfl

/-- A limit is given just when it is read, or standard and not given, and only one spelling
of it is a key. -/
theorem isGiven_iff
    (distinct : entries.names.Nodup)
    (name : LimitName)
    (count : Int) :
    IsGiven validator entries name count ↔
      (match (limitsModel validator).lookup? entries name with
        | some (_, value) => validator.integer 0 value = .ok count
        | none => count = Limits.standard.counts name) ∧
        (entries.find? name.capitalized = none ∨
          entries.find? name.underscored = none) := by
  have values := given_perm distinct name
  unfold IsGiven Model.lookup? limitsModel
  cases first : entries.find? name.capitalized with
  | none =>
      cases second : entries.find? name.underscored with
      | none =>
          rw [first, second] at values
          simp [values.eq_nil]
      | some value =>
          rw [first, second] at values
          simp [List.perm_singleton.1 values]
  | some value =>
      cases second : entries.find? name.underscored with
      | none =>
          rw [first, second] at values
          simp [List.perm_singleton.1 values]
      | some other =>
          rw [first, second] at values
          have length := values.length_eq
          simp only [reduceCtorEq, or_self, and_false, iff_false]
          rintro (⟨absent, -⟩ | ⟨single, once, -⟩)
          · simp [absent] at length
          · simp [once] at length

/-- A limit is read from every key when each of them names a limit, and none is under both
spellings. -/
theorem known_iff :
    (∀ key ∈ entries.names, ∃ name value,
      (limitsModel validator).lookup? entries name = some (key, value)) ↔
      (∀ key ∈ entries.names, ∃ name, LimitName.ofKey? key = some name) ∧
        ∀ name : LimitName,
          entries.find? name.capitalized = none ∨
            entries.find? name.underscored = none := by
  constructor
  · intro isUsed
    constructor
    · intro key member
      obtain ⟨name, value, found⟩ := isUsed key member
      exact ⟨name, ofKey?_of_lookup? validator found⟩
    · intro name
      by_contra both
      rw [not_or, find?_eq_none_iff, not_not, find?_eq_none_iff, not_not] at both
      obtain ⟨other, value, found⟩ := isUsed _ both.2
      -- The key is a spelling of one limit only, and the other spelling goes first.
      have named := ofKey?_of_lookup? validator found
      rw [(LimitName.ofKey?_eq_some_iff _ name).2 (.inr rfl), Option.some.injEq] at named
      subst named
      obtain ⟨first, isFirst⟩ :=
        Option.isSome_iff_exists.1 ((Entries.find?_isSome ..).2 both.1)
      simp [Model.lookup?, limitsModel, isFirst, name.capitalized_ne_underscored] at found
  · rintro ⟨known, once⟩ key member
    obtain ⟨name, named⟩ := known key member
    obtain ⟨value, found⟩ :=
      Option.isSome_iff_exists.1 ((Entries.find?_isSome ..).2 member)
    refine ⟨name, value, ?_⟩
    obtain rfl | rfl := (LimitName.ofKey?_eq_some_iff ..).1 named
    · simp [Model.lookup?, limitsModel, found]
    · have absent := (once name).resolve_right (by simp [found])
      simp [Model.lookup?, limitsModel, absent, found]

/-- The limits that settings are accepted as are those that they give. -/
theorem accepts_iff_gives (distinct : entries.names.Nodup) (counts : Counts) :
    (limitsModel validator).Accepts entries counts ↔ Gives validator entries counts := by
  constructor
  · intro accepts
    obtain ⟨known, once⟩ := (known_iff validator).1 accepts.known
    refine ⟨known, fun name => (isGiven_iff validator distinct ..).2 ⟨?_, once name⟩⟩
    split
    · next found => exact accepts.given _ _ _ found
    · next absent => exact accepts.notGiven _ absent
  · intro gives
    have read (name : LimitName) :=
      (isGiven_iff validator distinct ..).1 (gives.counts name)
    refine ⟨fun name key value found => ?_, fun name absent => ?_,
      (known_iff validator).2 ⟨gives.known, fun name => (read name).2⟩⟩
    · have here := (read name).1
      rw [found] at here
      exact here
    · have here := (read name).1
      rw [absent] at here
      exact here

/-- The limits that a lawful validator reads from settings are those that they give. -/
theorem resolveLimits_eq_ok_iff_gives
    {validator : Validator}
    (lawful : validator.Lawful)
    (distinct : entries.names.Nodup)
    (counts : Counts) :
    resolveLimits validator (.value (.mapping entries)) = .ok counts ↔
      Gives validator entries counts :=
  (lawful.validate_entries _ _ distinct).trans (accepts_iff_gives validator distinct counts)

end

end Settings
end Templating
