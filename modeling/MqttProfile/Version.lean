import MqttProfile.Json.Number

/-!
# Protocol versions

The versions of MQTT that a profile can ask for, by the level number that the protocol gives them.
-/

namespace MqttProfile

/-- A version of MQTT. -/
inductive MqttVersion where
  | v31
  | v311
  | v5
deriving DecidableEq, Repr

namespace MqttVersion

def level : MqttVersion → Int
  | .v31 => 3
  | .v311 => 4
  | .v5 => 5

/-- The version of a protocol level. -/
def ofLevel? (level : Int) : Option MqttVersion :=
  [v31, v311, v5].find? (·.level == level)

/-- The version that a value stands for: it is taken for an integer, which has to be a level. -/
def ofJson (value : Json) : Except Fault MqttVersion := do
  match ofLevel? (← value.toInt) with
  | some version => return version
  | none => throw .badValue

end MqttVersion

end MqttProfile
