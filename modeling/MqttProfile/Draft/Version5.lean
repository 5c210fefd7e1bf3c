import MqttProfile.Error
import MqttProfile.Field
import MqttProfile.Profile.Configuration

/-!
# Properties of version 5

Seven properties of a connection exist only in version 5 of the protocol.  Their fields are open while a
draft is of that version and closed otherwise; closing a field keeps its value, so that a change of
version and back loses nothing.
-/

namespace MqttProfile

/-- The properties that only version 5 has. -/
inductive Version5Property where
  | sessionExpiryInterval
  | sessionExpiryIntervalUnit
  | maxPacketSize
  | maxPacketSizeUnit
  | topicAliasMax
  | receiveMax
  | requestResponseInfo
deriving DecidableEq, Repr

namespace Version5Property

def all : List Version5Property :=
  [.sessionExpiryInterval, .sessionExpiryIntervalUnit, .maxPacketSize, .maxPacketSizeUnit,
   .topicAliasMax, .receiveMax, .requestResponseInfo]

/-- The name of a property. -/
def name : Version5Property → String
  | .sessionExpiryInterval => "session_expiry_interval"
  | .sessionExpiryIntervalUnit => "session_expiry_interval_unit"
  | .maxPacketSize => "max_packet_size"
  | .maxPacketSizeUnit => "max_packet_size_unit"
  | .topicAliasMax => "topic_alias_max"
  | .receiveMax => "receive_max"
  | .requestResponseInfo => "request_response_info"

end Version5Property

/-- Whether a version has these properties; a level that is no version has none. -/
def supportsVersion5 (level : Int) : Bool :=
  level == MqttVersion.v5.level

/-- A field for each property. -/
structure Version5Properties where
  sessionExpiryInterval : Field Json
  sessionExpiryIntervalUnit : Field TimeUnit
  maxPacketSize : Field Json
  maxPacketSizeUnit : Field SizeUnit
  topicAliasMax : Field Json
  receiveMax : Field Json
  requestResponseInfo : Field Json
deriving DecidableEq

namespace Version5Properties

/-- The properties of a new draft. -/
def initial : Version5Properties where
  sessionExpiryInterval := .plain (.int 0)
  sessionExpiryIntervalUnit := .plain .seconds
  maxPacketSize := .plain (.int 256)
  maxPacketSizeUnit := .plain .megabyte
  topicAliasMax := .plain (.int 0)
  receiveMax := .plain (.int 65535)
  requestResponseInfo := .plain (.bool false)

/-- A field with a stored value, or as it is when null is stored. -/
def stored (field : Field Json) (value : Json) : Field Json :=
  if value = .null then field else field.set value

/-- A field with a stored unit, or as it is when none is stored. -/
def storedUnit {α : Type} (field : Field α) : Option α → Field α
  | some unit => field.set unit
  | none => field

/-- The properties of a stored configuration; what is not stored is as in a new draft. -/
def ofConfiguration (c : Configuration) : Version5Properties where
  sessionExpiryInterval := stored initial.sessionExpiryInterval c.sessionExpiryInterval
  sessionExpiryIntervalUnit := storedUnit initial.sessionExpiryIntervalUnit c.sessionExpiryIntervalUnit
  maxPacketSize := stored initial.maxPacketSize c.maxPacketSize
  maxPacketSizeUnit := storedUnit initial.maxPacketSizeUnit c.maxPacketSizeUnit
  topicAliasMax := stored initial.topicAliasMax c.topicAliasMax
  receiveMax := stored initial.receiveMax c.receiveMax
  requestResponseInfo := stored initial.requestResponseInfo c.requestResponseInfo

/-- The value of a field with its flags. -/
def view {α : Type} (toJson : α → Json) (field : Field α) : Field Json :=
  ⟨toJson field.value, field.enabled, field.required⟩

/-- The field of a property; a unit is shown by its name. -/
def get (properties : Version5Properties) : Version5Property → Field Json
  | .sessionExpiryInterval => properties.sessionExpiryInterval
  | .sessionExpiryIntervalUnit => view (.str ·.name) properties.sessionExpiryIntervalUnit
  | .maxPacketSize => properties.maxPacketSize
  | .maxPacketSizeUnit => view (.str ·.name) properties.maxPacketSizeUnit
  | .topicAliasMax => properties.topicAliasMax
  | .receiveMax => properties.receiveMax
  | .requestResponseInfo => properties.requestResponseInfo

/-- Whether all fields are open. -/
def enabled (properties : Version5Properties) : Bool :=
  Version5Property.all.all fun p => (properties.get p).enabled

/-- The properties with all fields closed. -/
def lock (p : Version5Properties) : Version5Properties where
  sessionExpiryInterval := p.sessionExpiryInterval.lock
  sessionExpiryIntervalUnit := p.sessionExpiryIntervalUnit.lock
  maxPacketSize := p.maxPacketSize.lock
  maxPacketSizeUnit := p.maxPacketSizeUnit.lock
  topicAliasMax := p.topicAliasMax.lock
  receiveMax := p.receiveMax.lock
  requestResponseInfo := p.requestResponseInfo.lock

/-- The properties with all fields open. -/
def unlock (p : Version5Properties) : Version5Properties where
  sessionExpiryInterval := p.sessionExpiryInterval.unlock
  sessionExpiryIntervalUnit := p.sessionExpiryIntervalUnit.unlock
  maxPacketSize := p.maxPacketSize.unlock
  maxPacketSizeUnit := p.maxPacketSizeUnit.unlock
  topicAliasMax := p.topicAliasMax.unlock
  receiveMax := p.receiveMax.unlock
  requestResponseInfo := p.requestResponseInfo.unlock

/-- Opens or closes all fields according to a protocol level. -/
def gate (properties : Version5Properties) (level : Int) : Version5Properties :=
  if supportsVersion5 level then properties.unlock else properties.lock

/-- A field with an edited value, unless it is closed. -/
def editField {α : Type} (field : Field α) (value : α) : Field α :=
  if field.enabled then field.set value else field

/-- Edits the field of a property.  A unit has to be one even while the field is closed, in which case
the edit changes nothing. -/
def edit (p : Version5Properties) (property : Version5Property) (value : Json) :
    Except Error Version5Properties :=
  let unit {α : Type} (read : Json → Except Fault α) : Except Error α :=
    match read value with
    | .ok unit => .ok unit
    | .error _ => .error (.showing value (.unknownUnit value property.name))
  match property with
  | .sessionExpiryInterval =>
    .ok { p with sessionExpiryInterval := editField p.sessionExpiryInterval value }
  | .sessionExpiryIntervalUnit => (unit TimeUnit.ofJson).map fun unit =>
    { p with sessionExpiryIntervalUnit := editField p.sessionExpiryIntervalUnit unit }
  | .maxPacketSize => .ok { p with maxPacketSize := editField p.maxPacketSize value }
  | .maxPacketSizeUnit => (unit SizeUnit.ofJson).map fun unit =>
    { p with maxPacketSizeUnit := editField p.maxPacketSizeUnit unit }
  | .topicAliasMax => .ok { p with topicAliasMax := editField p.topicAliasMax value }
  | .receiveMax => .ok { p with receiveMax := editField p.receiveMax value }
  | .requestResponseInfo =>
    .ok { p with requestResponseInfo := editField p.requestResponseInfo value }

end Version5Properties

end MqttProfile
