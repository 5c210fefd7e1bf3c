import MqttProfile.Assembly.Check
import MqttProfile.Store.Basic

/-!
# Assembling a profile

A draft that passes the check is merged into a profile.  In the generated mode credentials are issued
first.  The password is handed over beside the profile and never becomes part of it.  The check does not look
into the payload of the last will, so a draft whose payload cannot be written fails only in the merge.
-/

namespace MqttProfile

/-- An assembled profile and the password that goes with it, or null. -/
structure Assembly where
  profile : Profile
  password : Json
deriving DecidableEq

/-- The last will with the texts in it trimmed. -/
def LastWill.trimmed (will : LastWill) : LastWill :=
  { will with
    topic := will.topic.trimmed
    payload := will.payload.trimmed
    options := { will.options with
      contentType := will.options.contentType.trimmed
      responseTopic := will.options.responseTopic.trimmed
      correlationData := will.options.correlationData.trimmed } }

/-- The property with its texts trimmed, unless that leaves no key. -/
def UserProperty.trimmed? (property : UserProperty) : Option UserProperty :=
  let key := property.key.trimmed
  if key.truthy then some ⟨key, property.value.trimmed⟩ else none

namespace Draft

/-- The client identifier of a profile: the one entered, or else the one of the edited profile, or else
a generated one. -/
def assembledClientId (draft : Draft) (g : Generator) : Json × Generator :=
  Identity.clientIdOrDrawn
    (draft.connection.identity.clientId.value.trimmed.orElse (Identity.storedClientId draft.editing)) g

/-- The last will to store with a profile, trimmed, or none. -/
def encodedWill (draft : Draft) : Except Fault (Option WillMessage) :=
  match draft.lastWill with
  | some will => will.trimmed.encode?
  | none => .ok none

/-- The settings of a checked draft, whose last will is encoded. -/
def configuration (draft : Draft) (intervals : Intervals) (credentialsId clientId : Json)
    (lastWill : Option WillMessage) : Configuration :=
  let c := draft.connection
  let a := draft.advanced
  let p := a.properties
  { url := c.url.value.trimmed
    clientId
    username := c.identity.username.value.trimmed
    passwordRequired := c.identity.password.value.trimmed.truthy
    rejectUnauthorized := c.rejectUnauthorized.value.truthy
    clientCredentialsId := credentialsId
    cleanStart := a.cleanStart.value.truthy
    keepAlive := intervals.keepAlive
    keepAliveUnit := a.keepAliveUnit.value
    connectTimeout := intervals.connectTimeout
    connectTimeoutUnit := a.connectTimeoutUnit.value
    reconnectPeriod := intervals.reconnectPeriod
    reconnectPeriodUnit := a.reconnectPeriodUnit.value
    mqttVersion := a.mqttVersion
    sessionExpiryInterval := p.sessionExpiryInterval.value
    sessionExpiryIntervalUnit := some p.sessionExpiryIntervalUnit.value
    maxPacketSize := p.maxPacketSize.value
    maxPacketSizeUnit := some p.maxPacketSizeUnit.value
    topicAliasMax := p.topicAliasMax.value
    receiveMax := p.receiveMax.value
    requestResponseInfo := p.requestResponseInfo.value
    lastWill
    userProperties := draft.userProperties.filterMap (·.trimmed?) }

/-- The profile of a draft with its settings.  An edited profile keeps its identifier, its owner and the
time of its creation; a new one belongs to the user, if there is one. -/
def profile (draft : Draft) (user : Option String) (configuration : Configuration) : Profile :=
  let name := draft.connection.name.value.trimmed
  match draft.editing with
  | some profile => { profile with name, configuration }
  | none => { name, configuration, id := none, userId := user, createdTime := .null }

/-- Merges a checked draft into a profile.  Its client identifier comes before its last will, so characters
may be drawn even if the last will cannot be encoded. -/
def merge (draft : Draft) (intervals : Intervals) (reference? : Option CredentialReference)
    (user : Option String) (g : Generator) : Except Fault Profile × Generator :=
  let (clientId, g) := draft.assembledClientId g
  let credentialsId := match reference? with
    | some reference => Json.str reference.id
    | none => .null
  (draft.encodedWill.map fun lastWill =>
    draft.profile user (draft.configuration intervals credentialsId clientId lastWill), g)

variable {σ : Type}

/-- Issues credentials for the identity of a draft. -/
def issueCredentials (store : CredentialStore σ) (draft : Draft) (world : σ) :
    Except Error CredentialReference × σ :=
  let identity := draft.connection.identity
  let name := identity.credentialsName.value.trimmed
  match store.issue name identity.clientId.value.trimmed identity.username.value.trimmed world with
  | (.ok reference, world) => (.ok reference, world)
  | (.error cause, world) => (.error (.showing name (.issuance name cause)), world)

/-- The credential that a profile is linked to: an issued one in the generated mode, and else the
attached one. -/
def linkedReference (store : CredentialStore σ) (draft : Draft) (world : σ) :
    Except Error (Option CredentialReference) × σ :=
  match draft.credentialMode with
  | .auto =>
    let (issued, world) := draft.issueCredentials store world
    (issued.map some, world)
  | .custom | .existing =>
    (.ok (draft.connection.identity.reference.value.map (·.record)), world)

/-- Checks a draft, issues credentials if it needs them, and merges it. -/
def assemble (store : CredentialStore σ) (user : Option String) (draft : Draft) (g : Generator) (world : σ) :
    Except Error Assembly × Generator × σ :=
  match draft.check with
  | .error error => (.error error, g, world)
  | .ok intervals =>
    match draft.linkedReference store world with
    | (.error error, world) => (.error error, g, world)
    | (.ok reference?, world) =>
      let (profile, g) := draft.merge intervals reference? user g
      ((liftFault profile).map fun profile =>
        ⟨profile, draft.connection.identity.password.value.orNull⟩, g, world)

/-- Assembles a draft and saves the profile. -/
def save (credentials : CredentialStore σ) (profiles : ProfileStore σ) (user : Option String) (draft : Draft)
    (g : Generator) (world : σ) : Except Error Assembly × Generator × σ :=
  match draft.assemble credentials user g world with
  | (.error error, g, world) => (.error error, g, world)
  | (.ok assembly, g, world) =>
    match profiles.save assembly.profile world with
    | (.ok profile, world) => (.ok { assembly with profile }, g, world)
    | (.error cause, world) =>
      let name := assembly.profile.name
      (.error (.showing name (.persistence name cause)), g, world)

end Draft

end MqttProfile
