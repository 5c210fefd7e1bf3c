import MqttProfile.Config.Basic
import MqttProfile.Draft.Identity
import MqttProfile.Draft.Version5

/-!
# Drafts of profiles

A draft collects what is entered for a connection, step by step.  It starts afresh, with a generated
identity, or from a profile that is edited.  Only assembling turns it into a profile.  The address of a draft
that starts afresh is derived, and so is its name, so it cannot start if either holds a number with too many
digits.
-/

namespace MqttProfile

/-- The step for the connection itself. -/
structure ConnectionStep where
  name : Field Json
  url : Field Json
  rejectUnauthorized : Field Json
  transport : Transport
  identity : Identity
deriving DecidableEq

/-- The step for the session and the protocol. -/
structure AdvancedStep where
  cleanStart : Field Json
  keepAlive : Field Json
  keepAliveUnit : Field TimeUnit
  connectTimeout : Field Json
  connectTimeoutUnit : Field TimeUnit
  reconnectPeriod : Field Json
  reconnectPeriodUnit : Field TimeUnit
  protocolVersion : Field MqttVersion
  properties : Version5Properties
deriving DecidableEq

/-- What is entered for a profile. -/
structure Draft where
  connection : ConnectionStep
  advanced : AdvancedStep
  lastWill : Option LastWill
  userProperties : List UserProperty
  endpoints : Endpoints
  /-- The profile that is edited, if the draft did not start afresh. -/
  editing : Option Profile
  /-- Whether the page that shows the draft was itself loaded over a secured connection. -/
  pageIsSecure : Bool
  /-- Whether a browser would refuse to connect from that page. -/
  urlWarning : Bool
deriving DecidableEq

namespace AdvancedStep

/-- The step in a draft that starts afresh. -/
def initial : AdvancedStep where
  cleanStart := .plain (.bool true)
  keepAlive := .mandatory (.int 60)
  keepAliveUnit := .plain .seconds
  connectTimeout := .mandatory (.int 30000)
  connectTimeoutUnit := .plain .milliseconds
  reconnectPeriod := .mandatory (.int 1000)
  reconnectPeriodUnit := .plain .milliseconds
  protocolVersion := .plain .v5
  properties := .initial

/-- The step in a draft that edits a configuration. -/
def ofConfiguration (c : Configuration) : AdvancedStep where
  cleanStart := .plain (.bool c.cleanStart)
  keepAlive := .mandatory (.int c.keepAlive)
  keepAliveUnit := .plain c.keepAliveUnit
  connectTimeout := .mandatory (.int c.connectTimeout)
  connectTimeoutUnit := .plain c.connectTimeoutUnit
  reconnectPeriod := .mandatory (.int c.reconnectPeriod)
  reconnectPeriodUnit := .plain c.reconnectPeriodUnit
  protocolVersion := .plain c.mqttVersion
  properties := .ofConfiguration c

def mqttVersion (advanced : AdvancedStep) : MqttVersion :=
  advanced.protocolVersion.value

/-- The step with its version 5 fields open or closed as its version demands. -/
def gated (advanced : AdvancedStep) : AdvancedStep :=
  { advanced with properties := advanced.properties.gate advanced.mqttVersion.level }

end AdvancedStep

namespace Draft

def credentialMode (draft : Draft) : CredentialMode :=
  draft.connection.identity.mode

/-- The draft with its warning as its transport demands. -/
def warned (draft : Draft) : Draft :=
  { draft with urlWarning := draft.connection.transport.blockedOn draft.pageIsSecure }

/-- The draft with everything that follows from other parts of it set anew. -/
def settled (draft : Draft) : Draft :=
  warned { draft with advanced := draft.advanced.gated }

/-- The address of a transport among endpoints, however many digits its port has. -/
def derivedUrl (config : Config) (transport : Transport) (endpoints : Endpoints) : Json :=
  .str (transport.url (endpoints.get transport) config.urlPath)

/-- Derives the address of a transport from its endpoint. -/
def deriveUrl (config : Config) (transport : Transport) (endpoints : Endpoints) : Except Error Json :=
  (liftFault (transport.derive (endpoints.get transport) config.urlPath)).map .str

/-- The draft that starts afresh, once its name, its address and its identity are known. -/
def initial (config : Config) (pageIsSecure : Bool) (name : String) (url : Json) (identity : Identity) :
    Draft :=
  settled
    { connection := {
        name := .mandatory (.str name)
        url := .mandatory url
        rejectUnauthorized := .plain (.bool true)
        transport := .plain
        identity }
      advanced := .initial
      lastWill := none
      userProperties := []
      endpoints := config.defaultEndpoints
      editing := none
      pageIsSecure
      urlWarning := false }

/-- A draft that starts afresh under a name.  Nothing is drawn for one that cannot start. -/
def named (config : Config) (pageIsSecure : Bool) (name : String) (g : Generator) :
    Except Error Draft × Generator :=
  match deriveUrl config .plain config.defaultEndpoints with
  | .error error => (.error error, g)
  | .ok url =>
    let (identity, g) := Identity.initial none g
    (.ok (initial config pageIsSecure name url identity), g)

/-- A draft that starts afresh, as the next after a number of connections. -/
def new (config : Config) (pageIsSecure : Bool) (connections : Int) (g : Generator) :
    Except Error Draft × Generator :=
  match connectionName (connections + 1) with
  | .error fault => (.error (.fault fault), g)
  | .ok name => named config pageIsSecure name g

/-- The last will of a configuration as it is entered. -/
def storedWill (c : Configuration) : Except Fault (Option LastWill) :=
  match c.lastWill with
  | some message => message.open?.map some
  | none => .ok none

/-- The draft that edits a profile, once its transport, its identity and its last will are known. -/
def hydrated (config : Config) (pageIsSecure : Bool) (profile : Profile) (transport : Transport)
    (identity : Identity) (lastWill : Option LastWill) : Draft :=
  let c := profile.configuration
  settled
    { connection := {
        name := .mandatory profile.name
        url := .mandatory c.url
        rejectUnauthorized := .plain (.bool c.rejectUnauthorized)
        transport
        identity }
      advanced := .ofConfiguration c
      lastWill
      userProperties := c.userProperties
      endpoints := config.defaultEndpoints
      editing := some profile
      pageIsSecure
      urlWarning := false }

/-- A draft that edits a profile.  Characters may be drawn even if the last will cannot be opened, for
the identity is set up before it. -/
def ofProfile (config : Config) (pageIsSecure : Bool) (profile : Profile) (g : Generator) :
    Except Error Draft × Generator :=
  match Transport.ofUrl profile.configuration.url with
  | .error fault => (.error (.fault fault), g)
  | .ok transport =>
    let (identity, g) := Identity.initial (some profile) g
    match storedWill profile.configuration with
    | .error fault => (.error (.fault fault), g)
    | .ok lastWill => (.ok (hydrated config pageIsSecure profile transport identity lastWill), g)

end Draft

end MqttProfile
