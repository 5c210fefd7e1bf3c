/-!
# Faults of values

The ways in which a value can be unfit for what is done with it.  A fault carries no text: who reports
it names the kind only.
-/

namespace MqttProfile

/-- Why a value cannot be used. -/
inductive Fault where
  /-- The value is of an accepted kind, but none of the accepted values. -/
  | badValue
  /-- The value is of a kind that the operation does not accept. -/
  | wrongKind
  /-- An object has no member of a required name. -/
  | missingKey
  /-- Members are looked up in a value that is no object. -/
  | notAnObject
  /-- A number is too large for its destination. -/
  | outOfRange
  /-- A text is not JSON. -/
  | malformedJson
  /-- A sequence of bytes is no text in its encoding. -/
  | malformedText
deriving DecidableEq, Repr

end MqttProfile
