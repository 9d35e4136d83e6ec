/-!
# Issues of settings

What may be wrong with the fields of settings, and the report of all that is wrong.
-/

namespace HttpAuth

/-- What is wrong with a field. -/
inductive FieldFault where
  /-- It is missing. -/
  | missing
  /-- It is no text. -/
  | notText
  /-- It is empty. -/
  | emptyText
  /-- It is a text that is no integer. -/
  | integerText
  /-- It is an integer of too many digits. -/
  | integerSize
  /-- It is a number with a fraction. -/
  | fractional
  /-- It is no finite number. -/
  | notFinite
  /-- It is nothing that stands for an integer. -/
  | notInteger
  /-- It is below a bound. -/
  | below (bound : Int)
  /-- It is above a bound. -/
  | above (bound : Int)
  /-- It is a text that is no number. -/
  | numberText
  /-- It is nothing that stands for a number. -/
  | notNumber
  /-- It is a text or a number that is no truth value. -/
  | flagText
  /-- It is nothing that stands for a truth value. -/
  | notFlag
  /-- It is no group of settings. -/
  | notGroup
  /-- It cannot be changed. -/
  | frozen
  deriving Repr, DecidableEq

namespace FieldFault

/-- The name of the kind of fault. -/
def tag : FieldFault → String
  | .missing => "missing"
  | .notText => "string_type"
  | .emptyText => "string_too_short"
  | .integerText => "int_parsing"
  | .integerSize => "int_parsing_size"
  | .fractional => "int_from_float"
  | .notFinite => "finite_number"
  | .notInteger => "int_type"
  | .below _ => "greater_than_equal"
  | .above _ => "less_than_equal"
  | .numberText => "float_parsing"
  | .notNumber => "float_type"
  | .flagText => "bool_parsing"
  | .notFlag => "bool_type"
  | .notGroup => "model_type"
  | .frozen => "frozen_instance"

/-- The wording of a fault. -/
def message : FieldFault → String
  | .missing => "Field required"
  | .notText => "Input should be a valid string"
  | .emptyText => "String should have at least 1 character"
  | .integerText => "Input should be a valid integer, unable to parse string as an integer"
  | .integerSize => "Unable to parse input string as an integer, exceeded maximum size"
  | .fractional => "Input should be a valid integer, got a number with a fractional part"
  | .notFinite => "Input should be a finite number"
  | .notInteger => "Input should be a valid integer"
  | .below bound => "Input should be greater than or equal to " ++ toString bound
  | .above bound => "Input should be less than or equal to " ++ toString bound
  | .numberText => "Input should be a valid number, unable to parse string as a number"
  | .notNumber => "Input should be a valid number"
  | .flagText => "Input should be a valid boolean, unable to interpret input"
  | .notFlag => "Input should be a valid boolean"
  | .notGroup => "Input should be a valid dictionary or instance of ProxySettings"
  | .frozen => "Instance is frozen"

end FieldFault

/-- A fault and the path to its field. -/
structure Issue where
  /-- What is wrong. -/
  fault : FieldFault
  /-- Names of the fields from the outermost one on. -/
  path : List String
  deriving Repr, DecidableEq

/-- The group of settings that issues belong to. -/
inductive SettingsGroup where
  /-- The settings of a client. -/
  | client
  /-- The settings of a proxy. -/
  | proxy
  deriving Repr, DecidableEq

/-- The name of a group. -/
def SettingsGroup.title : SettingsGroup → String
  | .client => "Settings"
  | .proxy => "ProxySettings"

/-- The issues of a group of settings. -/
structure Invalid where
  /-- The group that was checked. -/
  group : SettingsGroup
  /-- Its issues. -/
  issues : List Issue
  deriving Repr, DecidableEq

end HttpAuth
