import Templating.Limits.Names
import Templating.Settings.Problem
import Templating.Value.Basic

/-!
# Validation of settings

Settings are declared as models and checked by a library of the host. A model has
fields in an order. Each field has two keys, a value for when it is not given, and
a way to read what is given for it. The library is a parameter of everything that
is read from settings, and what it does with the declarations is stated as laws.
-/

namespace Templating

/-- What is given for a setting: a value, or limits that were read before. -/
inductive Given
  | value (value : Value)
  | limits (counts : Counts)

namespace Settings

/-- Read what is given. The location of a problem begins at what is given. -/
abbrev Reader (α β : Type) := α → Except (List Problem) β

/-- What was read for each field of a model. -/
abbrev Record {ι : Type} (type : ι → Type) := (field : ι) → type field

/-- What a model is read from: entries, what was read for the model before, or
something else. -/
inductive Input (α ρ : Type)
  | entries (entries : Entries α)
  | record (record : ρ)
  | other

/-- A declaration of settings. -/
structure Model (α : Type) {ι : Type} (type : ι → Type) where
  fields : List ι
  complete : ∀ field, field ∈ fields
  /-- The key that a field is looked up under first. -/
  firstKey : ι → String
  /-- The name of a field, under which it is looked up as well. -/
  name : ι → String
  /-- What a field is when it is not given. -/
  standard : Record type
  read : (field : ι) → Reader α (type field)

namespace Model

variable {α ι : Type} {type : ι → Type}

/-- The entry that a field is read from. -/
def lookup? (model : Model α type) (entries : Entries α) (field : ι) :
    Option (String × α) :=
  match entries.find? (model.firstKey field) with
  | some value => some (model.firstKey field, value)
  | none => (entries.find? (model.name field)).map fun value => (model.name field, value)

/-- Entries are accepted when every field that is given is read, every other field
is standard, and a field is read from every entry. -/
structure Accepts
    (model : Model α type)
    (entries : Entries α)
    (record : Record type) :
    Prop where
  given : ∀ field key value, model.lookup? entries field = some (key, value) →
    model.read field value = .ok (record field)
  notGiven : ∀ field, model.lookup? entries field = none →
    record field = model.standard field
  known : ∀ key ∈ entries.names, ∃ field value,
    model.lookup? entries field = some (key, value)

end Model

/-- A library that validates settings. -/
structure Validator where
  /-- Read a whole number above a bound. -/
  integer : (above : Int) → Reader Value Int
  boolean : Reader Given Bool
  /-- Read a mapping as it is. -/
  dictionary : Reader Given (Entries Value)
  /-- Read null as something of its own. -/
  nullable : {β : Type} → (null : β) → Reader Given β → Reader Given β
  /-- Read by one of several readers, each under a label. -/
  union : {β : Type} → List (String × Reader Given β) → Reader Given β
  /-- Read a model. -/
  validate : {α ι : Type} → {type : ι → Type} → Model α type →
    Reader (Input α (Record type)) (Record type)
  /-- Another record of a model, with one field changed. -/
  copy : {α ι : Type} → {type : ι → Type} → [DecidableEq ι] → Model α type →
    Record type → (field : ι) → type field → Record type
  /-- Write down a record of a model, under either key of its fields. -/
  dump : {α ι : Type} → {type : ι → Type} → Model α type → (byFirstKey : Bool) →
    ((field : ι) → type field → Value) → Record type → Entries Value

namespace Validator

/-- What the host may rely on. -/
structure Lawful (validator : Validator) : Prop where
  /-- A whole number above the bound is read as itself. -/
  integer_of_lt : ∀ {above whole : Int}, above < whole →
    validator.integer above (.integer whole) = .ok whole
  /-- Nothing else than a number above the bound is ever read. -/
  lt_of_integer : ∀ {above whole : Int} {value : Value},
    validator.integer above value = .ok whole → above < whole
  dictionary_mapping : ∀ entries : Entries Value,
    validator.dictionary (.value (.mapping entries)) = .ok entries
  /-- Limits that were read before are no mapping. -/
  dictionary_limits : ∀ (counts : Counts) (entries : Entries Value),
    validator.dictionary (.limits counts) ≠ .ok entries
  nullable_null : ∀ {β : Type} (null : β) (reader : Reader Given β),
    validator.nullable null reader (.value .null) = .ok null
  nullable_other : ∀ {β : Type} (null : β) (reader : Reader Given β) {given : Given},
    given ≠ .value .null → validator.nullable null reader given = reader given
  /-- A union gives what one of its readers gives. -/
  exists_of_union : ∀ {β : Type} {members : List (String × Reader Given β)}
    {given : Given} {result : β}, validator.union members given = .ok result →
      ∃ member ∈ members, member.2 given = .ok result
  /-- A union gives something when one of its readers does. -/
  union_of_exists : ∀ {β : Type} {members : List (String × Reader Given β)}
    {given : Given} {result : β}, (∃ member ∈ members, member.2 given = .ok result) →
      ∃ found, validator.union members given = .ok found
  /-- Entries without a key twice are read as what they are accepted as. -/
  validate_entries : ∀ {α ι : Type} {type : ι → Type} (model : Model α type)
    {entries : Entries α} (record : Record type), entries.names.Nodup →
      (validator.validate model (.entries entries) = .ok record ↔
        model.Accepts entries record)
  /-- What was read before is not read again. -/
  validate_record : ∀ {α ι : Type} {type : ι → Type} (model : Model α type)
    (record : Record type), validator.validate model (.record record) = .ok record
  copy_same : ∀ {α ι : Type} {type : ι → Type} [DecidableEq ι] (model : Model α type)
    (record : Record type) (field : ι) (value : type field),
      validator.copy model record field value field = value
  copy_other : ∀ {α ι : Type} {type : ι → Type} [DecidableEq ι] (model : Model α type)
    (record : Record type) {field other : ι} (value : type field), other ≠ field →
      validator.copy model record field value other = record other
  dump_eq : ∀ {α ι : Type} {type : ι → Type} (model : Model α type) (byFirstKey : Bool)
    (write : (field : ι) → type field → Value) (record : Record type),
      validator.dump model byFirstKey write record =
        model.fields.map fun field =>
          (if byFirstKey then model.firstKey field else model.name field,
            write field (record field))

end Validator
end Settings
end Templating
