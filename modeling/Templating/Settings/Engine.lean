import Templating.Engine
import Templating.Settings.Limits

/-!
# Settings of an engine

An engine is set up by its limits, which are settings of their own, and by
whether it logs failures. The settings are read in two steps: what is given is
checked first, and only then are the limits read.
-/

namespace Templating
namespace Settings

/-- The settings of an engine. -/
inductive EngineField
  | limits
  | logsFailures
  deriving DecidableEq

/-- What the settings of an engine are. The limits stay as they are given until
they are resolved. -/
abbrev EngineField.type : EngineField → Type
  | .limits => Given
  | .logsFailures => Bool

/-- The settings of an engine together. -/
abbrev Configuration := Record EngineField.type

/-- The settings with given limits and logging. -/
def Configuration.of (limits : Given) (logsFailures : Bool) : Configuration
  | .limits => limits
  | .logsFailures => logsFailures

variable (validator : Validator)

/-- The readers of limits that are not null: as limits, or as a mapping that is read later. -/
def limitsReaders : List (String × Reader Given Given) :=
  [("TemplateLimits", fun given =>
      (validator.validate (limitsModel validator) given.limitsInput).map .limits),
    ("dict[str,any]", fun given =>
      (validator.dictionary given).map fun entries => .value (.mapping entries))]

/-- Read what is given for the limits: limits, a mapping or null. -/
def readGivenLimits : Reader Given Given :=
  validator.nullable (.value .null) (validator.union (limitsReaders validator))

/-- The declaration of the settings of an engine. -/
def engineModel : Model Given EngineField.type where
  fields := [.limits, .logsFailures]
  complete field := by cases field <;> decide
  firstKey
    | .limits => "limits"
    | .logsFailures => "logRenderErrors"
  name
    | .limits => "limits"
    | .logsFailures => "log_render_errors"
  standard := Configuration.of (.value .null) true
  read
    | .limits => readGivenLimits validator
    | .logsFailures => validator.boolean

/-- Read the settings of an engine, unless they were read before. -/
def readConfiguration : Reader (Input Given Configuration) Configuration
  | .record configuration => .ok configuration
  | input => validator.validate (engineModel validator) input

/-- The settings of an engine with resolved limits; null stands for the standard
ones. -/
def normalize : Option (Input Given Configuration) → Except (List Problem) Configuration
  | none =>
      validator.validate (engineModel validator)
        (.entries [("limits", .limits Limits.standard.counts)])
  | some input => do
      let candidate ← readConfiguration validator input
      let counts ← resolveLimits validator (candidate .limits)
      return validator.copy (engineModel validator) candidate .limits (.limits counts)

end Settings

/-- The engine of settings whose limits are resolved. -/
def Engine.ofConfiguration? {σ : Type}
    (configuration : Settings.Configuration)
    (registry : Registry σ) :
    Option (Engine σ) :=
  match configuration .limits with
  | .limits counts =>
      (Limits.ofCounts? counts).map fun limits =>
        { registry, limits, logsFailures := configuration .logsFailures }
  | .value _ => none

end Templating
