/-!
# Problems of settings

Settings come from outside and are checked as a whole: every setting that is not
acceptable is a problem, told by the way to it and by a code.
-/

namespace Templating

/-- What is wrong with a setting. -/
inductive ProblemKind
  /-- Settings must be a mapping. -/
  | notSettings
  | notMapping
  | notInteger
  | unreadableInteger
  | oversizedInteger
  | fractionalInteger
  | infiniteInteger
  | notPositive
  | notBoolean
  | unreadableBoolean
  | unknownSetting
  /-- Settings that are in use do not change. -/
  | unchangeable
  deriving DecidableEq

/-- The code of a kind of problem. -/
def ProblemKind.code : ProblemKind → String
  | .notSettings => "model_type"
  | .notMapping => "dict_type"
  | .notInteger => "int_type"
  | .unreadableInteger => "int_parsing"
  | .oversizedInteger => "int_parsing_size"
  | .fractionalInteger => "int_from_float"
  | .infiniteInteger => "finite_number"
  | .notPositive => "greater_than"
  | .notBoolean => "bool_type"
  | .unreadableBoolean => "bool_parsing"
  | .unknownSetting => "extra_forbidden"
  | .unchangeable => "frozen_instance"

/-- A setting that is not acceptable. -/
structure Problem where
  /-- The keys on the way to the setting. -/
  location : List String
  kind : ProblemKind
  deriving DecidableEq

end Templating
