import MqttProfile.Json.Display
import MqttProfile.Json.Number
import MqttProfile.Json.Reader
import MqttProfile.Measure

/-!
# Last wills

A last will as it is entered, and the message that is stored for it.  An array or object as payload is
stored as compact JSON text and marked so; when the message is opened again the text is read back.  A
structured payload that cannot be written cannot be stored.
-/

namespace MqttProfile

/-- How the payload of a stored last will is to be read. -/
inductive PayloadType where
  | json
  | string
deriving DecidableEq, Repr

def PayloadType.name : PayloadType → String
  | .json => "JSON"
  | .string => "STRING"

def PayloadType.ofJson : Json → Except Fault PayloadType
  | .str "JSON" => .ok .json
  | .str "STRING" => .ok .string
  | _ => .error .badValue

/-- The unit of time that a value names. -/
def TimeUnit.ofJson : Json → Except Fault TimeUnit
  | .str s => match TimeUnit.ofName? s with
    | some u => .ok u
    | none => .error .badValue
  | _ => .error .badValue

/-- The unit of size that a value names. -/
def SizeUnit.ofJson : Json → Except Fault SizeUnit
  | .str s => match SizeUnit.ofName? s with
    | some u => .ok u
    | none => .error .badValue
  | _ => .error .badValue

/-- Reads a value that may be null. -/
def Json.optional {α : Type} (read : Json → Except Fault α) : Json → Except Fault (Option α)
  | .null => .ok none
  | value => (read value).map some

/-- The parts of a last will that may be left out. -/
structure WillOptions where
  payloadFormatIndicator : Json
  contentType : Json
  msgExpiryInterval : Json
  msgExpiryIntervalUnit : Option TimeUnit
  willDelayInterval : Json
  willDelayIntervalUnit : Option TimeUnit
  responseTopic : Json
  correlationData : Json
deriving DecidableEq

/-- A last will as it is entered. -/
structure LastWill where
  topic : Json
  payload : Json
  qos : Json
  retain : Json
  options : WillOptions
deriving DecidableEq

/-- A last will as it is stored. -/
structure WillMessage where
  topic : Json
  qos : Json
  retain : Json
  payload : Json
  payloadType : PayloadType
  options : WillOptions
deriving DecidableEq

def TimeUnit.nameOrNull : Option TimeUnit → Json
  | some u => .str u.name
  | none => .null

def SizeUnit.nameOrNull : Option SizeUnit → Json
  | some u => .str u.name
  | none => .null

namespace WillOptions

/-- All parts left out. -/
def none : WillOptions := ⟨.null, .null, .null, .none, .null, .none, .null, .null⟩

/-- The stored form of the parts: those that are null are left out. -/
def toMembers (options : WillOptions) : Json.Members :=
  [("payloadFormatIndicator", options.payloadFormatIndicator),
   ("contentType", options.contentType),
   ("msgExpiryInterval", options.msgExpiryInterval),
   ("msgExpiryIntervalUnit", TimeUnit.nameOrNull options.msgExpiryIntervalUnit),
   ("willDelayInterval", options.willDelayInterval),
   ("willDelayIntervalUnit", TimeUnit.nameOrNull options.willDelayIntervalUnit),
   ("responseTopic", options.responseTopic),
   ("correlationData", options.correlationData)].filter fun (_, value) => value != .null

/-- Reads the parts from the members of a stored last will. -/
def ofMembers (members : Json.Members) : Except Fault WillOptions := do
  let expiryUnit ← Json.optional TimeUnit.ofJson (Json.memberOrNull "msgExpiryIntervalUnit" members)
  let delayUnit ← Json.optional TimeUnit.ofJson (Json.memberOrNull "willDelayIntervalUnit" members)
  return {
    payloadFormatIndicator := Json.memberOrNull "payloadFormatIndicator" members
    contentType := Json.memberOrNull "contentType" members
    msgExpiryInterval := Json.memberOrNull "msgExpiryInterval" members
    msgExpiryIntervalUnit := expiryUnit
    willDelayInterval := Json.memberOrNull "willDelayInterval" members
    willDelayIntervalUnit := delayUnit
    responseTopic := Json.memberOrNull "responseTopic" members
    correlationData := Json.memberOrNull "correlationData" members }

end WillOptions

/-- An array or an object is a structured payload. -/
def Json.isStructured : Json → Bool
  | .arr _ | .obj _ => true
  | _ => false

/-- The stored payload and its type: compact JSON text for a structured payload, which has to be written
for it, else the payload itself. -/
def PayloadType.encode (payload : Json) : Except Fault (Json × PayloadType) :=
  if payload.isStructured then (payload.write Json.compact).map fun text => (.str text, .json)
  else .ok (payload, .string)

namespace LastWill

/-- The message to store, or none when there is no topic. -/
def encode? (will : LastWill) : Except Fault (Option WillMessage) :=
  if will.topic.truthy then
    (PayloadType.encode will.payload).map fun (payload, payloadType) => some {
      topic := will.topic
      qos := will.qos
      retain := will.retain
      payload
      payloadType
      options := will.options }
  else .ok none

end LastWill

namespace WillMessage

/-- The stored form of a message. -/
def toJson (message : WillMessage) : Json :=
  .obj <|
    [("topic", message.topic), ("qos", message.qos), ("retain", message.retain),
     ("payload", message.payload), ("payloadType", .str message.payloadType.name)]
      ++ message.options.toMembers

/-- Reads a message from its stored form. -/
def ofJson (payload : Json) : Except Fault WillMessage := do
  let topic ← (← payload.require "topic").shown
  let members ← payload.asObject
  let qos ← ((Json.memberOrNull "qos" members).orElse (.int 0)).toInt
  let payloadType ← PayloadType.ofJson
    ((Json.memberOrNull "payloadType" members).orElse (.str PayloadType.string.name))
  let options ← WillOptions.ofMembers members
  return {
    topic := .str topic
    qos := .int qos
    retain := .bool (Json.memberOrNull "retain" members).truthy
    payload := Json.memberOrNull "payload" members
    payloadType
    options }

/-- The payload as it was entered: the text of a structured payload is read. -/
def decodePayload (message : WillMessage) : Except Fault Json :=
  if message.payloadType = .json ∧ message.payload.truthy then
    match message.payload with
    | .str s => Json.ofText s
    | _ => .error .wrongKind
  else .ok message.payload

/-- Opens a stored message for editing. -/
def open? (message : WillMessage) : Except Fault LastWill :=
  message.decodePayload.map fun payload =>
    { topic := message.topic
      payload
      qos := message.qos
      retain := message.retain
      options := message.options }

end WillMessage

end MqttProfile
