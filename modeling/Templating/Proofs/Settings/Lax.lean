import Mathlib.Data.List.Basic
import Templating.Settings.Lax

/-!
# The lax validator is lawful

Reading fields one by one and then asking for keys that are left accepts the entries that a
model accepts, and a union that takes the last reader that accepts gives what that reader
gives.
-/

namespace Templating
namespace Settings

theorem readUnion_eq_ok
    {β : Type}
    {members : List (String × Reader Given β)}
    {given : Given}
    {result : β}
    (read : readUnion members given = .ok result) :
    ∃ member ∈ members, member.2 given = .ok result := by
  unfold readUnion at read
  split at read
  · next found last =>
      cases read
      obtain ⟨member, isMember, accepts⟩ :=
        List.mem_filterMap.1 (List.mem_of_getLast? last)
      refine ⟨member, isMember, ?_⟩
      cases accepted : member.2 given with
      | ok value => simpa [accepted, Except.toOption] using accepts
      | error found => simp [accepted, Except.toOption] at accepts
  · cases read

theorem exists_readUnion
    {β : Type}
    {members : List (String × Reader Given β)}
    {given : Given}
    {result : β}
    (accepts : ∃ member ∈ members, member.2 given = .ok result) :
    ∃ found, readUnion members given = .ok found := by
  obtain ⟨member, isMember, accepts⟩ := accepts
  have accepted :
      result ∈ members.filterMap fun member => (member.2 given).toOption :=
    List.mem_filterMap.2 ⟨member, isMember, by rw [accepts]; rfl⟩
  have last := List.getLast?_eq_some_getLast (List.ne_nil_of_mem accepted)
  exact ⟨_, by rw [readUnion, last]⟩

namespace Model

variable {α ι : Type} {type : ι → Type} {model : Model α type} {entries : Entries α}

theorem unknownKeys_eq_nil :
    model.unknownKeys entries = [] ↔
      ∀ key ∈ entries.names, ∃ field value,
        model.lookup? entries field = some (key, value) := by
  simp [unknownKeys, model.complete]

/-- Entries are read when every field is, and no key is left. -/
theorem readFields_eq_ok_iff (record : Record type) :
    model.readFields entries = .ok record ↔
      (∀ field, model.readField entries field = .ok (record field)) ∧
        model.unknownKeys entries = [] := by
  unfold readFields
  constructor
  · intro read
    split at read
    · next isRead =>
        obtain ⟨fields, used⟩ := isRead
        cases read
        refine ⟨fun field => ?_, used⟩
        have isOk := fields field (model.complete field)
        cases found : model.readField entries field with
        | ok value => simp [found]
        | error found => simp [found, Except.isOk, Except.toBool] at isOk
    · cases read
  · rintro ⟨fields, used⟩
    rw [if_pos ⟨fun field _ => by rw [fields]; rfl, used⟩]
    exact congrArg Except.ok (funext fun field => by rw [fields])

theorem readField_eq_ok_iff (field : ι) (value : type field) :
    model.readField entries field = .ok value ↔
      (∀ key found, model.lookup? entries field = some (key, found) →
        model.read field found = .ok value) ∧
        (model.lookup? entries field = none → value = model.standard field) := by
  unfold readField
  cases model.lookup? entries field with
  | none => simp [eq_comm]
  | some entry =>
      obtain ⟨key, found⟩ := entry
      cases read : model.read field found <;> simp [Except.mapError, read]

/-- Entries are read as what they are accepted as. -/
theorem readFields_eq_ok_iff_accepts (record : Record type) :
    model.readFields entries = .ok record ↔ model.Accepts entries record := by
  simp only [readFields_eq_ok_iff, unknownKeys_eq_nil, readField_eq_ok_iff]
  constructor
  · rintro ⟨fields, known⟩
    exact ⟨fun field => (fields field).1, fun field => (fields field).2, known⟩
  · rintro ⟨given, notGiven, known⟩
    exact ⟨fun field => ⟨given field, notGiven field⟩, known⟩

end Model

theorem Validator.lax_lawful : lax.Lawful where
  integer_of_lt {_ _} above := if_pos above
  lt_of_integer {above whole value} read := by
    simp only [lax, readInteger] at read
    split at read
    · cases read
    · split at read
      · next isAbove =>
          cases read
          exact isAbove
      · cases read
  dictionary_mapping _ := rfl
  dictionary_limits _ _ := nofun
  nullable_null _ _ := rfl
  nullable_other {_} _ _ {_} notNull := by
    simp only [lax]
    unfold readNullable
    split
    · exact absurd rfl notNull
    · rfl
  exists_of_union := readUnion_eq_ok
  union_of_exists := exists_readUnion
  validate_entries _ _ record _ := Model.readFields_eq_ok_iff_accepts record
  validate_record _ _ := rfl
  copy_same _ _ _ _ := dif_pos rfl
  copy_other _ _ _ _ _ other := dif_neg other.symm
  dump_eq _ _ _ _ := rfl

end Settings
end Templating
