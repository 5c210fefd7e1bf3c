import MqttProfile.LastWill
import MqttProfile.Version

/-!
# Connection configurations

The settings that are stored with a profile.  Reading fills in what is missing and converts what is
oddly typed; writing yields every setting, with the last will and the user properties only if there are
any.
-/

namespace MqttProfile

/-- A property that a user attaches to a connection. -/
structure UserProperty where
  key : Json
  value : Json
deriving DecidableEq

/-- The settings of a connection. -/
structure Configuration where
  url : Json
  clientId : Json
  username : Json
  passwordRequired : Bool
  rejectUnauthorized : Bool
  clientCredentialsId : Json
  cleanStart : Bool
  keepAlive : Int
  keepAliveUnit : TimeUnit
  connectTimeout : Int
  connectTimeoutUnit : TimeUnit
  reconnectPeriod : Int
  reconnectPeriodUnit : TimeUnit
  mqttVersion : MqttVersion
  sessionExpiryInterval : Json
  sessionExpiryIntervalUnit : Option TimeUnit
  maxPacketSize : Json
  maxPacketSizeUnit : Option SizeUnit
  topicAliasMax : Json
  receiveMax : Json
  requestResponseInfo : Json
  lastWill : Option WillMessage
  userProperties : List UserProperty
deriving DecidableEq

namespace UserProperty

def toJson (property : UserProperty) : Json :=
  .obj [("k", property.key), ("v", property.value)]

/-- The property in an item of the stored list; an item that is no object or has no key holds none. -/
def ofItem? : Json → Except Fault (Option UserProperty)
  | .obj members =>
    let key := Json.memberOrNull "k" members
    if key.truthy then key.shown.map fun key => some ⟨.str key, Json.memberOrNull "v" members⟩
    else .ok none
  | _ => .ok none

/-- The properties in what is stored for them.  A text or an object is walked through too, but what
stands in it is a text and no property. -/
def ofJson (stored : Json) : Except Fault (List UserProperty) := do
  let members ← (stored.orElse (.obj [])).asObject
  let items := Json.memberOrNull "props" members
  if items.truthy then
    match items with
    | .arr items => return (← items.mapM ofItem?).filterMap id
    | .str _ | .obj _ => return []
    | _ => throw .wrongKind
  else return []

end UserProperty

namespace Configuration

/-- The settings of a new connection to an address. -/
def initial (url clientId : Json) : Configuration where
  url
  clientId
  username := .null
  passwordRequired := false
  rejectUnauthorized := true
  clientCredentialsId := .null
  cleanStart := true
  keepAlive := 60
  keepAliveUnit := .seconds
  connectTimeout := 30000
  connectTimeoutUnit := .milliseconds
  reconnectPeriod := 1000
  reconnectPeriodUnit := .milliseconds
  mqttVersion := .v5
  sessionExpiryInterval := .int 0
  sessionExpiryIntervalUnit := some .seconds
  maxPacketSize := .int 256
  maxPacketSizeUnit := some .megabyte
  topicAliasMax := .int 0
  receiveMax := .int 65535
  requestResponseInfo := .bool false
  lastWill := none
  userProperties := []

def toJson (c : Configuration) : Json :=
  .obj <|
    [("url", c.url),
     ("rejectUnauthorized", .bool c.rejectUnauthorized),
     ("clientCredentialsId", c.clientCredentialsId),
     ("clientId", c.clientId),
     ("username", c.username),
     ("passwordRequired", .bool c.passwordRequired),
     ("cleanStart", .bool c.cleanStart),
     ("keepAlive", .int c.keepAlive),
     ("keepAliveUnit", .str c.keepAliveUnit.name),
     ("connectTimeout", .int c.connectTimeout),
     ("connectTimeoutUnit", .str c.connectTimeoutUnit.name),
     ("reconnectPeriod", .int c.reconnectPeriod),
     ("reconnectPeriodUnit", .str c.reconnectPeriodUnit.name),
     ("mqttVersion", .int c.mqttVersion.level),
     ("sessionExpiryInterval", c.sessionExpiryInterval),
     ("sessionExpiryIntervalUnit", TimeUnit.nameOrNull c.sessionExpiryIntervalUnit),
     ("maxPacketSize", c.maxPacketSize),
     ("maxPacketSizeUnit", SizeUnit.nameOrNull c.maxPacketSizeUnit),
     ("topicAliasMax", c.topicAliasMax),
     ("receiveMax", c.receiveMax),
     ("requestResponseInfo", c.requestResponseInfo)]
      ++ (match c.lastWill with
          | some message => [("lastWillMsg", message.toJson)]
          | none => [])
      ++ (if c.userProperties.isEmpty then []
          else [("userProperties", .obj [("props", .arr (c.userProperties.map (·.toJson)))])])

/-- A member as a truth value, or a default where it is missing. -/
def switch (key : String) (default : Bool) (members : Json.Members) : Bool :=
  match Json.lookup key members with
  | some value => value.truthy
  | none => default

/-- A member as an integer, or a default where it is missing. -/
def integer (key : String) (default : Int) (members : Json.Members) : Except Fault Int :=
  match Json.lookup key members with
  | some value => value.toInt
  | none => .ok default

/-- A member as a unit of time, or a default where it is false. -/
def timeUnit (key : String) (default : TimeUnit) (members : Json.Members) :
    Except Fault TimeUnit :=
  TimeUnit.ofJson ((Json.memberOrNull key members).orElse (.str default.name))

/-- A member as a version, or version 5 where it is missing. -/
def version (members : Json.Members) : Except Fault MqttVersion :=
  match Json.lookup "mqttVersion" members with
  | some value => MqttVersion.ofJson value
  | none => .ok .v5

/-- The last will in what is stored for it: an object with a topic. -/
def storedWill (stored : Json) : Except Fault (Option WillMessage) :=
  match stored with
  | .obj members =>
    if (Json.memberOrNull "topic" members).truthy then (WillMessage.ofJson stored).map some
    else .ok none
  | _ => .ok none

/-- Reads settings from their stored form. -/
def ofJson (payload : Json) : Except Fault Configuration := do
  let members ← payload.asObject
  let value (key : String) := Json.memberOrNull key members
  let userProperties ← UserProperty.ofJson (value "userProperties")
  let url ← ((value "url").orElse (.str "")).shown
  let clientId ← ((value "clientId").orElse (.str "")).shown
  let keepAlive ← integer "keepAlive" 60 members
  let keepAliveUnit ← timeUnit "keepAliveUnit" .seconds members
  let connectTimeout ← integer "connectTimeout" 30000 members
  let connectTimeoutUnit ← timeUnit "connectTimeoutUnit" .milliseconds members
  let reconnectPeriod ← integer "reconnectPeriod" 1000 members
  let reconnectPeriodUnit ← timeUnit "reconnectPeriodUnit" .milliseconds members
  let mqttVersion ← version members
  let sessionExpiryIntervalUnit ← Json.optional TimeUnit.ofJson (value "sessionExpiryIntervalUnit")
  let maxPacketSizeUnit ← Json.optional SizeUnit.ofJson (value "maxPacketSizeUnit")
  let lastWill ← storedWill (value "lastWillMsg")
  return {
    url := .str url
    clientId := .str clientId
    username := value "username"
    passwordRequired := switch "passwordRequired" false members
    rejectUnauthorized := switch "rejectUnauthorized" true members
    clientCredentialsId := value "clientCredentialsId"
    cleanStart := switch "cleanStart" true members
    keepAlive
    keepAliveUnit
    connectTimeout
    connectTimeoutUnit
    reconnectPeriod
    reconnectPeriodUnit
    mqttVersion
    sessionExpiryInterval := value "sessionExpiryInterval"
    sessionExpiryIntervalUnit
    maxPacketSize := value "maxPacketSize"
    maxPacketSizeUnit
    topicAliasMax := value "topicAliasMax"
    receiveMax := value "receiveMax"
    requestResponseInfo := value "requestResponseInfo"
    lastWill
    userProperties }

end Configuration

end MqttProfile
