import MqttProfile.Config.Basic

/-!
# Logging

How messages are logged under a configuration.  The level is given by name, in any case.
-/

namespace MqttProfile

/-- How messages are logged. -/
structure Logging where
  level : Nat
  format : String
deriving DecidableEq, Repr

namespace Logging

/-- The levels by name. -/
def levels : List (String × Nat) :=
  [("CRITICAL", 50), ("FATAL", 50), ("ERROR", 40), ("WARN", 30), ("WARNING", 30), ("INFO", 20),
   ("DEBUG", 10), ("NOTSET", 0)]

/-- The level where the name is unknown. -/
def defaultLevel : Nat := 20

/-- The form of a message. -/
def messageFormat : String := "%(asctime)s %(levelname)s %(name)s: %(message)s"

/-- The capital letter of a character.  Outside ASCII only the dotless `ı` and the long `ſ` have one
that occurs in the name of a level. -/
def capital (c : Char) : Char :=
  if c = 'ı' then 'I' else if c = 'ſ' then 'S' else c.toUpper

/-- The level of a name. -/
def levelOf (name : String) : Nat :=
  (levels.lookup (String.ofList (name.toList.map capital))).getD defaultLevel

end Logging

/-- How messages are logged under a configuration. -/
def Config.logging {α : Type} (config : Config α) : Logging :=
  ⟨Logging.levelOf config.logLevel, Logging.messageFormat⟩

end MqttProfile
