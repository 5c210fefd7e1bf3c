import MqttProfile.Intake
import MqttProfile.Json.Display
import MqttProfile.Measure

/-!
# Errors

Every cause for which an operation of this library fails, and the wording of each in one place.  Where the
wording shows a value, there is no such error about a value that cannot be shown: it is a bad value itself.
-/

namespace MqttProfile

/-- The steps of a draft, in the order in which they are shown. -/
inductive Step where
  | connection
  | advanced
  | lastWill
  | userProperties
deriving DecidableEq, Repr

/-- The position of a step. -/
def Step.index : Step → Nat
  | .connection => 0
  | .advanced => 1
  | .lastWill => 2
  | .userProperties => 3

def Step.all : List Step := [.connection, .advanced, .lastWill, .userProperties]

/-- Why a field of a draft keeps it from being assembled. -/
inductive Reason where
  | required
  | notWhole
  | negative
  | notBetween (low high : Int)
deriving DecidableEq, Repr

/-- A reason in words. -/
def Reason.message : Reason → String
  | .required => "is required"
  | .notWhole => "must be a whole number"
  | .negative => "must not be negative"
  | .notBetween low high => s!"must be between {Text.decimal low} and {Text.decimal high}"

/-- The cause of a failure. -/
inductive Error where
  /-- A value is unfit for its use. -/
  | fault (fault : Fault)
  /-- A document does not fit its declaration. -/
  | invalid (issues : List Issue)
  /-- A value cannot be expressed in a unit. -/
  | measure (cause : MeasureError)
  /-- The field holds no generated value. -/
  | notRegenerable (field : String)
  /-- The connection step has no such field. -/
  | unknownConnectionField (field : Json)
  /-- The advanced step has no such field. -/
  | unknownAdvancedField (field : Json)
  /-- An edit does not say to which step it belongs. -/
  | missingStep (field : Json)
  /-- The value names no unit of the field. -/
  | unknownUnit (value : Json) (field : String)
  /-- A step holds a field that is missing or out of bounds. -/
  | structural (step : Step) (field : String) (reason : Reason)
  /-- The credential store could not issue credentials. -/
  | issuance (name : Json) (cause : Error)
  /-- The profile store could not save a profile. -/
  | persistence (name : Json) (cause : Error)
  /-- The source of the password policy says itself that there is none. -/
  | policyMissing (message : String)
  /-- The source of the password policy failed. -/
  | policyFetch (cause : Error)
  /-- A password change was submitted before any policy had loaded. -/
  | changeBlocked
  /-- The credential store holds no record of the identifier. -/
  | credentialsNotFound (id : Json)
  /-- A service answered with an error status. -/
  | rejected (status : Int) (message : String)
  /-- A service could not be reached. -/
  | unreachable (method path reason : String)
  /-- The credential service answered with something that is no record. -/
  | unexpectedPayload
  /-- A collaborator broke down. -/
  | breakdown (message : String)
deriving DecidableEq

namespace Error

/-- What went wrong, in words; faults and issues have none, nor has a failure that is caused by one. -/
def message? : Error → Option String
  | .fault _ => none
  | .invalid _ => none
  | .measure cause => some cause.message
  | .notRegenerable field => some s!"Field '{field}' cannot be regenerated."
  | .unknownConnectionField field => some s!"Unknown connection field '{field.display}'."
  | .unknownAdvancedField field => some s!"Unknown advanced field '{field.display}'."
  | .missingStep field => some s!"Field edit for '{field.display}' is missing its step."
  | .unknownUnit value field => some s!"Invalid unit '{value.display}' for '{field}'."
  | .structural step field reason =>
    some s!"Step {step.index}: field '{field}' {reason.message}"
  | .issuance name cause =>
    cause.message?.map fun text => s!"Failed to issue credentials '{name.display}': {text}"
  | .persistence name cause =>
    cause.message?.map fun text => s!"Failed to save connection '{name.display}': {text}"
  | .policyMissing message => some message
  | .policyFetch cause => cause.message?.map fun text => s!"Failed to load password policy: {text}"
  | .changeBlocked => some "Password policy has not loaded yet."
  | .credentialsNotFound id => some s!"Credentials '{id.display}' not found."
  | .rejected _ message => some message
  | .unreachable method path reason => some s!"{method} {path} failed: {reason}"
  | .unexpectedPayload => some "Credential store returned an unexpected payload."
  | .breakdown message => some message

/-- The status of the answer that reported the failure, if one did. -/
def status? : Error → Option Int
  | .credentialsNotFound _ => some 404
  | .rejected status _ => some status
  | _ => none

/-- The step that a failure leads back to, if there is one: a profile that cannot be saved leads back to
the first. -/
def step? : Error → Option Step
  | .structural step _ _ => some step
  | .persistence _ _ => some .connection
  | _ => none

end Error

/-- An error whose wording shows a value, if the value can be shown. -/
def Error.showing (value : Json) (error : Error) : Error :=
  if value.writable then error else .fault .badValue

theorem Error.showing_of_writable {value : Json} (error : Error) (h : value.writable = true) :
    Error.showing value error = error :=
  if_pos h

theorem Error.showing_of_not_writable {value : Json} (error : Error) (h : value.writable = false) :
    Error.showing value error = .fault .badValue :=
  if_neg (by simp [h])

def Fault.raise {α : Type} (fault : Fault) : Except Error α :=
  .error (.fault fault)

/-- A computation on values, with its fault as an error. -/
def liftFault {α : Type} : Except Fault α → Except Error α
  | .ok x => .ok x
  | .error fault => .error (.fault fault)

/-- The outcome of an intake, with its issues as an error. -/
def liftIntake {α : Type} : Intake α → Except Error α
  | .ok x => .ok x
  | .error issues => .error (.invalid issues)

end MqttProfile
