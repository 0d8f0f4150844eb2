import Templating.Settings.Coercion
import Templating.Settings.Engine

/-!
# A lax validator

A library that reads settings of other types than the declared ones where they can
mean one of these, and that tells all problems of a model: those of its fields in
order, and then the keys that no field is read from.
-/

namespace Templating
namespace Settings

/-- What is wrong with something as a whole. -/
def problem {α : Type} (kind : ProblemKind) : Except (List Problem) α :=
  .error [{ location := [], kind }]

/-- The problems of what was read. -/
def problems {α : Type} : Except (List Problem) α → List Problem
  | .ok _ => []
  | .error found => found

/-- Problems further in. -/
def under (key : String) (found : List Problem) : List Problem :=
  found.map fun problem => { problem with location := key :: problem.location }

/-- Read a whole number above a bound. -/
def readInteger (above : Int) (value : Value) : Except (List Problem) Int :=
  match toInteger value with
  | .error kind => problem kind
  | .ok whole => if above < whole then .ok whole else problem .notPositive

/-- Read a boolean. -/
def readBoolean : Reader Given Bool
  | .limits _ => problem .notBoolean
  | .value value =>
    match toBoolean value with
    | .error kind => problem kind
    | .ok found => .ok found

/-- Read a mapping. -/
def readDictionary : Reader Given (Entries Value)
  | .value (.mapping entries) => .ok entries
  | _ => problem .notMapping

/-- Read null, or anything else by a reader. -/
def readNullable {β : Type} (null : β) (reader : Reader Given β) : Reader Given β
  | .value .null => .ok null
  | given => reader given

/-- Read by the last reader that accepts what is given; its problems are those of
all the readers. -/
def readUnion {β : Type} (members : List (String × Reader Given β)) : Reader Given β :=
  fun given =>
    match (members.filterMap fun member => (member.2 given).toOption).getLast? with
    | some found => .ok found
    | none =>
        .error (members.flatMap fun (label, reader) => under label (problems (reader given)))

namespace Model

variable {α ι : Type} {type : ι → Type} (model : Model α type) (entries : Entries α)

/-- Read one field. -/
def readField (field : ι) : Except (List Problem) (type field) :=
  match model.lookup? entries field with
  | none => .ok (model.standard field)
  | some (key, value) => (model.read field value).mapError (under key)

/-- The keys that no field is read from. -/
def unknownKeys : List String :=
  let used := model.fields.filterMap fun field =>
    (model.lookup? entries field).map Prod.fst
  entries.names.filter fun key => !used.contains key

/-- Every field is read, and no entry is left. -/
def IsRead : Prop :=
  (∀ field ∈ model.fields, (model.readField entries field).isOk) ∧
    model.unknownKeys entries = []

instance : Decidable (model.IsRead entries) := inferInstanceAs (Decidable (_ ∧ _))

/-- Read all fields. -/
def readFields : Except (List Problem) (Record type) :=
  if model.IsRead entries then
    .ok fun field =>
      match model.readField entries field with
      | .ok value => value
      | .error _ => model.standard field
  else
    .error <|
      (model.fields.flatMap fun field => problems (model.readField entries field)) ++
        (model.unknownKeys entries).map fun key =>
          { location := [key], kind := .unknownSetting }

/-- Read a model. -/
def readModel : Reader (Input α (Record type)) (Record type)
  | .entries entries => model.readFields entries
  | .record record => .ok record
  | .other => problem .notSettings

end Model

/-- A lax validator. -/
def Validator.lax : Validator where
  integer := readInteger
  boolean := readBoolean
  dictionary := readDictionary
  nullable := readNullable
  union := readUnion
  validate := Model.readModel
  copy _ record field value other :=
    if same : field = other then same ▸ value else record other
  dump model byFirstKey write record :=
    model.fields.map fun field =>
      (if byFirstKey then model.firstKey field else model.name field,
        write field (record field))

/-- Limits do not change: setting one by name is always a problem. -/
def assignLimit (name : String) : Problem :=
  { location := [name], kind := .unchangeable }

end Settings
end Templating
