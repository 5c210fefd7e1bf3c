import MqttProfile.Draft.Basic
import MqttProfile.Text.Blank

/-!
# Checking a draft

A draft is checked step by step, and the first field that is missing or out of bounds is reported.  The
numbers that a profile needs come out of the check as integers.
-/

namespace MqttProfile

/-- A value without the blanks around it, if it is a text. -/
def Json.trimmed : Json → Json
  | .str s => .str (Text.trim s)
  | value => value

/-- A value is missing if it is null or a text of blanks. -/
def Json.missing : Json → Bool
  | .null => true
  | .str s => Text.blank s
  | _ => false

/-- The numbers of a draft that was checked. -/
structure Intervals where
  keepAlive : Int
  connectTimeout : Int
  reconnectPeriod : Int
deriving DecidableEq, Repr

namespace Draft

def maxQos : Int := 2

/-- The greatest integer of two bytes. -/
def maxTwoByteInteger : Int := 65535

/-- Fails when there is no value. -/
def demand (step : Step) (name : String) (field : Field Json) : Except Error Unit :=
  if field.value.missing then .error (.structural step name .required) else .ok ()

/-- Fails when a field that is open and has to be filled in has no value. -/
def demandOpen (step : Step) (name : String) (field : Field Json) : Except Error Unit :=
  if field.enabled && field.required then demand step name field else .ok ()

/-- The integer in a field, which has to be there. -/
def demandInt (step : Step) (name : String) (field : Field Json) : Except Error Int :=
  match demand step name field with
  | .error error => .error error
  | .ok () => match field.value.wholeNumber? with
    | some n => .ok n
    | none => .error (.structural step name .notWhole)

/-- The integer in a field, which has to be within bounds. -/
def demandBetween (step : Step) (name : String) (low high : Int) (field : Field Json) :
    Except Error Int :=
  match demandInt step name field with
  | .error error => .error error
  | .ok n =>
    if low ≤ n ∧ n ≤ high then .ok n else .error (.structural step name (.notBetween low high))

/-- The integer in a field, which must not be negative. -/
def demandNatural (step : Step) (name : String) (field : Field Json) : Except Error Int :=
  match demandInt step name field with
  | .error error => .error error
  | .ok n => if n < 0 then .error (.structural step name .negative) else .ok n

/-- Checks the fields of the identity. -/
def checkIdentity (identity : Identity) : Except Error Unit := do
  match identity.mode with
  | .auto =>
    demand .connection "credentials_name" identity.credentialsName
    demand .connection "client_id" identity.clientId
  | .custom | .existing =>
    demandOpen .connection "client_id" identity.clientId
    demandOpen .connection "password" identity.password
  if identity.mode = .existing ∧ identity.reference.value = none then
    throw (.structural .connection "credential_reference" .required)

/-- Checks the connection step. -/
def checkConnection (connection : ConnectionStep) : Except Error Unit := do
  demandOpen .connection "name" connection.name
  demandOpen .connection "url" connection.url
  checkIdentity connection.identity

/-- Checks the properties of version 5. -/
def checkProperties (p : Version5Properties) : Except Error Unit := do
  let step := Step.advanced
  let _ ← demandBetween step "session_expiry_interval" 0
    (Bounded.maxSessionExpiry p.sessionExpiryIntervalUnit.value) p.sessionExpiryInterval
  let _ ← demandBetween step "max_packet_size" 0 (Bounded.maxPacket p.maxPacketSizeUnit.value)
    p.maxPacketSize
  let _ ← demandBetween step "topic_alias_max" 0 maxTwoByteInteger p.topicAliasMax
  let _ ← demandBetween step "receive_max" 1 maxTwoByteInteger p.receiveMax

/-- Checks the advanced step. -/
def checkAdvanced (a : AdvancedStep) : Except Error Intervals := do
  let step := Step.advanced
  let keepAlive ← demandBetween step "keep_alive" 0 (Bounded.maxKeepAlive a.keepAliveUnit.value)
    a.keepAlive
  let connectTimeout ← demandNatural step "connect_timeout" a.connectTimeout
  let reconnectPeriod ← demandNatural step "reconnect_period" a.reconnectPeriod
  if supportsVersion5 a.mqttVersion.level then checkProperties a.properties
  return { keepAlive, connectTimeout, reconnectPeriod }

/-- Whether a value lies between zero and a bound; only numbers can be compared. -/
def within (value : Json) (high : Int) : Except Fault Bool := do
  let low ← value.compareInt 0
  if low = some .eq ∨ low = some .gt then
    let top ← value.compareInt high
    return top = some .eq ∨ top = some .lt
  else return false

/-- Checks an interval of the last will, which may be null but not negative. -/
def checkInterval (name : String) (value : Json) : Except Error Unit :=
  if value = .null then .ok ()
  else match value.compareInt 0 with
    | .error fault => .error (.fault fault)
    | .ok (some .lt) => .error (.structural .lastWill name .negative)
    | .ok _ => .ok ()

/-- Checks a last will; one without a topic is not looked at any further. -/
def checkLastWill : Option LastWill → Except Error Unit
  | none => .ok ()
  | some will => do
    if will.topic.trimmed.truthy then
      unless (← liftFault (within will.qos maxQos)) do
        throw (.structural .lastWill "qos" (.notBetween 0 maxQos))
      checkInterval "msg_expiry_interval" will.options.msgExpiryInterval
      checkInterval "will_delay_interval" will.options.willDelayInterval

/-- Checks a draft and yields its numbers. -/
def check (draft : Draft) : Except Error Intervals := do
  checkConnection draft.connection
  let intervals ← checkAdvanced draft.advanced
  checkLastWill draft.lastWill
  return intervals

end Draft

end MqttProfile
