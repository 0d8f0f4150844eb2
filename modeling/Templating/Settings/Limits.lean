import Templating.Settings.Validator

/-!
# Limits as settings

The limits are whole numbers above zero, each under one of two spellings. What is
not given keeps its standard value. Limits may also be given as limits, or not at
all.
-/

namespace Templating

/-- What limits are read from. -/
def Given.limitsInput : Given → Settings.Input Value Counts
  | .limits counts => .record counts
  | .value (.mapping entries) => .entries entries
  | .value _ => .other

namespace Settings

variable (validator : Validator)

/-- The declaration of the limits. -/
def limitsModel : Model Value (fun _ : LimitName => Int) where
  fields := LimitName.all
  complete := LimitName.mem_all
  firstKey := LimitName.capitalized
  name := LimitName.underscored
  standard := Limits.standard.counts
  read _ := validator.integer 0

/-- The limits that are given: null stands for the standard ones. -/
def resolveLimits : Reader Given Counts
  | .value .null => .ok Limits.standard.counts
  | .limits counts => .ok counts
  | given => validator.validate (limitsModel validator) given.limitsInput

end Settings
end Templating
