import MqttProfile.Error
import MqttProfile.LastWill

/-!
# Last wills in forms

A form holds a last will as an object with named parts.  What it leaves out is empty, and it may not hold
other parts.
-/

namespace MqttProfile.LastWill

/-- The names of the parts. -/
def partNames : List String :=
  ["topic", "payload", "qos", "retain", "payload_format_indicator", "content_type",
   "msg_expiry_interval", "msg_expiry_interval_unit", "will_delay_interval",
   "will_delay_interval_unit", "response_topic", "correlation_data"]

/-- Reads the parts of a last will.  The units are read first, so a wrong one is reported before a part
that should not be there. -/
def ofParts (parts : Json.Members) : Except Fault LastWill := do
  let part (name : String) := Json.memberOrNull name parts
  let partOr (name : String) (default : Json) := (Json.lookup name parts).getD default
  let msgExpiryIntervalUnit ← Json.optional TimeUnit.ofJson (part "msg_expiry_interval_unit")
  let willDelayIntervalUnit ← Json.optional TimeUnit.ofJson (part "will_delay_interval_unit")
  if parts.all fun (name, _) => partNames.contains name then
    return {
      topic := part "topic"
      payload := part "payload"
      qos := partOr "qos" (.int 0)
      retain := partOr "retain" (.bool false)
      options := {
        payloadFormatIndicator := part "payload_format_indicator"
        contentType := part "content_type"
        msgExpiryInterval := part "msg_expiry_interval"
        msgExpiryIntervalUnit
        willDelayInterval := part "will_delay_interval"
        willDelayIntervalUnit
        responseTopic := part "response_topic"
        correlationData := part "correlation_data" } }
  else throw .wrongKind

/-- Reads what a form holds for a last will; null is none. -/
def ofForm : Json → Except Error (Option LastWill)
  | .null => .ok none
  | .obj parts => liftFault ((ofParts parts).map some)
  | _ => .error (.fault .wrongKind)

/-- The last will as a form holds it, with every part. -/
def toForm (will : LastWill) : Json :=
  .obj
    [("topic", will.topic), ("payload", will.payload), ("qos", will.qos), ("retain", will.retain),
     ("payload_format_indicator", will.options.payloadFormatIndicator),
     ("content_type", will.options.contentType),
     ("msg_expiry_interval", will.options.msgExpiryInterval),
     ("msg_expiry_interval_unit", TimeUnit.nameOrNull will.options.msgExpiryIntervalUnit),
     ("will_delay_interval", will.options.willDelayInterval),
     ("will_delay_interval_unit", TimeUnit.nameOrNull will.options.willDelayIntervalUnit),
     ("response_topic", will.options.responseTopic),
     ("correlation_data", will.options.correlationData)]

end MqttProfile.LastWill
