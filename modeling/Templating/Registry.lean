import Templating.Limits
import Templating.Error
import Templating.Text.Character
import Templating.Text.Quoted
import Templating.Token.Basic
import Templating.Value.Basic

/-!
# Functions of the host

A host installs functions under names that expressions can call. A function is
given its arguments, already evaluated, and the circumstances of the call; it may
change the state of the host, and it may fail. A registry holds functions under
names that are words of the expression language and no keywords.
-/

namespace Templating

/-- The circumstances of a call. -/
structure CallContext where
  limits : Limits
  /-- The offset of the call in its expression. -/
  position : Int
  /-- The text that the host gave as the source of the render. -/
  source : String

/-- How a function of the host fails. -/
inductive HostFailure
  /-- With an error of the template language. -/
  | error (error : Error)
  /-- In a way of its own, told by a text. -/
  | exception (text : String)

/-- A function of a host whose state is of type `σ`. -/
abbrev HostFunction (σ : Type) :=
  List Value → CallContext → EStateM HostFailure σ Value

/-- What a host gives to be installed: a function, or by mistake a value. -/
inductive Candidate (σ : Type)
  | function (function : HostFunction σ)
  | value (value : Value)

/-- Why something is not installed. -/
inductive RegistrationError
  | invalidName (name : String)
  | notCallable (name typeName : String)
  deriving DecidableEq

/-- The wording of a refused installation. -/
def RegistrationError.message : RegistrationError → String
  | .invalidName name => "Invalid function name: " ++ Text.quoted name
  | .notCallable name typeName =>
      "Function " ++ Text.quoted name ++ " is not callable (got " ++ typeName ++ ")"

/-- A function can have a name that an expression can call: it starts with a
letter or an underscore, holds word characters only, and is no keyword. -/
def isFunctionName (name : String) : Bool :=
  match name.toList with
  | [] => false
  | first :: rest =>
      Text.isNameStart first && rest.all Text.isWord && !isKeyword name

/-- The functions of a host under their names. -/
structure Registry (σ : Type) where
  entries : Entries (HostFunction σ)
  valid : ∀ name ∈ entries.names, isFunctionName name = true
  distinct : entries.names.Nodup

namespace Registry

variable {σ : Type}

/-- No functions. -/
def empty : Registry σ where
  entries := []
  valid := by simp
  distinct := List.nodup_nil

instance : Inhabited (Registry σ) := ⟨empty⟩

/-- The function of a name. -/
def find? (registry : Registry σ) (name : String) : Option (HostFunction σ) :=
  registry.entries.find? name

/-- A name has a function. -/
def has (registry : Registry σ) (name : String) : Bool :=
  (registry.find? name).isSome

/-- The number of functions. -/
def size (registry : Registry σ) : Nat := registry.entries.length

/-- The names in the order of their characters. -/
def names (registry : Registry σ) : List String :=
  registry.entries.names.mergeSort fun first second => first ≤ second

/-- Install a function under a valid name, in place of an earlier one. -/
def insert
    (registry : Registry σ)
    (name : String)
    (function : HostFunction σ)
    (isValid : isFunctionName name = true) :
    Registry σ where
  entries := registry.entries.put name function
  valid := by
    intro other member
    rcases (Entries.mem_names_put _ _ _ _).1 member with same | old
    · rw [same]
      exact isValid
    · exact registry.valid other old
  distinct := Entries.nodup_names_put _ _ _ registry.distinct

/-- Install a function, if its name is valid and it is a function. -/
def register
    (registry : Registry σ)
    (name : String)
    (candidate : Candidate σ) :
    Except RegistrationError (Registry σ) :=
  if isValid : isFunctionName name = true then
    match candidate with
    | .function function => .ok (registry.insert name function isValid)
    | .value value => .error (.notCallable name value.typeName)
  else .error (.invalidName name)

/-- Remove the function of a name, if there is one. -/
def unregister (registry : Registry σ) (name : String) : Registry σ where
  entries := registry.entries.remove name
  valid := fun other member =>
    registry.valid other
      ((Entries.names_remove_sublist _ _).subset member)
  distinct :=
    (Entries.names_remove_sublist _ _).nodup registry.distinct

/-- The registry that several functions make up, installed one after the other. -/
def ofEntries (entries : Entries (HostFunction σ)) :
    Except RegistrationError (Registry σ) :=
  entries.foldlM (fun registry entry => registry.register entry.1 (.function entry.2))
    empty

/-- A new registry with the same functions. -/
def copy (registry : Registry σ) : Except RegistrationError (Registry σ) :=
  ofEntries registry.entries

/-- Call the function of a name. -/
def call
    (registry : Registry σ)
    (name : String)
    (arguments : List Value)
    (context : CallContext) :
    EStateM HostFailure σ Value :=
  match registry.find? name with
  | some function => function arguments context
  | none =>
      throw (.error
        (.evaluation (.unknownFunction name) (some context.position)
          (some context.source)))

@[simp] theorem find?_empty (name : String) :
    (empty : Registry σ).find? name = none := rfl

/-- After installing a function its name finds it, and every other name finds
what it found before. -/
theorem find?_insert
    (registry : Registry σ)
    (name other : String)
    (function : HostFunction σ)
    (isValid : isFunctionName name = true) :
    (registry.insert name function isValid).find? other =
      if name = other then some function else registry.find? other :=
  Entries.find?_put _ _ _ _

/-- After removing a function its name finds nothing, and every other name finds what it
found before. -/
theorem find?_unregister
    (registry : Registry σ)
    (name other : String) :
    (registry.unregister name).find? other =
      if name = other then none else registry.find? other :=
  Entries.find?_remove _ _ _ registry.distinct

theorem has_unregister
    (registry : Registry σ)
    (name other : String) :
    (registry.unregister name).has other = true ↔
      other ≠ name ∧ registry.has other = true := by
  rw [has, find?_unregister, has]
  split
  · next same => simp [same]
  · next different => simp [Ne.symm different]

/-- Only functions with valid names are found. -/
theorem isFunctionName_of_has
    {registry : Registry σ}
    {name : String}
    (found : registry.has name = true) :
    isFunctionName name = true :=
  registry.valid name ((Entries.find?_isSome _ _).1 found)

end Registry
end Templating
