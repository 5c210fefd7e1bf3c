import MqttProfile.Draft.Basic
import MqttProfile.Draft.Properties

/-!
# Events of a draft

What a user or a service does to a draft, and what becomes of the draft.  An event that cannot be applied
fails and leaves the draft as it was.  Characters for generated identifiers are drawn along the way.
-/

namespace MqttProfile

/-- What happens to a draft.  Values are as they were entered: applying the event reads them. -/
inductive Event where
  /-- The draft is shown. -/
  | initialise
  | selectMode (mode : Json)
  /-- A credential is attached, or taken away. -/
  | changeReference (reference : Option CredentialReference)
  | changeVersion (version : Json)
  | selectTransport (transport : Json)
  | loadSettings (settings : Option ConnectivitySettings)
  | editUrl (url : Json)
  | editConnection (field value : Json)
  | editAdvanced (field value : Json)
  | editLastWill (lastWill : Option LastWill)
  | editUserProperties (input : PropertyInput)
  /-- A field is edited without a word on its step. -/
  | editNowhere (field : Json)
  /-- The value of a field is generated anew. -/
  | regenerate (field : Json)
deriving DecidableEq

/-! ## Fields by name -/

/-- The editable fields of the connection step, its address apart. -/
inductive ConnectionField where
  | name
  | rejectUnauthorized
  | credentialsName
  | clientId
  | username
  | password
deriving DecidableEq, Repr

/-- The field of the connection step that a value names. -/
def ConnectionField.ofJson? : Json → Option ConnectionField
  | .str "name" => some .name
  | .str "reject_unauthorized" => some .rejectUnauthorized
  | .str "credentials_name" => some .credentialsName
  | .str "client_id" => some .clientId
  | .str "username" => some .username
  | .str "password" => some .password
  | _ => none

/-- The editable fields of the advanced step. -/
inductive AdvancedField where
  | cleanStart
  | keepAlive
  | keepAliveUnit
  | connectTimeout
  | connectTimeoutUnit
  | reconnectPeriod
  | reconnectPeriodUnit
  | protocolVersion
  | property (property : Version5Property)
deriving DecidableEq, Repr

namespace AdvancedField

/-- The name of a field. -/
def name : AdvancedField → String
  | .cleanStart => "clean_start"
  | .keepAlive => "keep_alive"
  | .keepAliveUnit => "keep_alive_unit"
  | .connectTimeout => "connect_timeout"
  | .connectTimeoutUnit => "connect_timeout_unit"
  | .reconnectPeriod => "reconnect_period"
  | .reconnectPeriodUnit => "reconnect_period_unit"
  | .protocolVersion => "protocol_version"
  | .property p => p.name

/-- All fields. -/
def all : List AdvancedField :=
  [.cleanStart, .keepAlive, .keepAliveUnit, .connectTimeout, .connectTimeoutUnit, .reconnectPeriod,
   .reconnectPeriodUnit, .protocolVersion] ++ Version5Property.all.map .property

/-- The field of the advanced step that a value names; an array or object is no name at all. -/
def ofJson (value : Json) : Except Error AdvancedField :=
  match value with
  | .str s => match all.find? (·.name == s) with
    | some field => .ok field
    | none => .error (.unknownAdvancedField value)
  | .arr _ | .obj _ => .error (.fault .wrongKind)
  | _ => .error (.showing value (.unknownAdvancedField value))

end AdvancedField

namespace Draft

/-! ## Identity -/

def withIdentity (draft : Draft) (identity : Identity) : Draft :=
  { draft with connection := { draft.connection with identity } }

/-- Selects where the identity comes from. -/
def selectMode (draft : Draft) (mode : Json) (g : Generator) : Except Error Draft × Generator :=
  match CredentialMode.ofJson mode with
  | .error fault => (.error (.fault fault), g)
  | .ok mode =>
    let (identity, g) := draft.connection.identity.selectMode mode draft.editing g
    (.ok (draft.withIdentity identity), g)

/-- Attaches a credential that was decoded, or takes the attached one away. -/
def attach (draft : Draft) (credential? : Option LinkedCredential) (g : Generator) :
    Draft × Generator :=
  let (identity, g) := draft.connection.identity.attach credential? draft.editing g
  (draft.withIdentity identity, g)

/-- Attaches a credential, whose text has to be readable, or takes the attached one away. -/
def changeReference (draft : Draft) (reference? : Option CredentialReference) (g : Generator) :
    Except Error Draft × Generator :=
  match reference? with
  | none =>
    let (draft, g) := draft.attach none g
    (.ok draft, g)
  | some reference =>
    match reference.link with
    | .error fault => (.error (.fault fault), g)
    | .ok credential =>
      let (draft, g) := draft.attach (some credential) g
      (.ok draft, g)

/-- Generates the value of a field of the identity anew. -/
def regenerate (draft : Draft) (field : Json) (g : Generator) : Except Error Draft × Generator :=
  match field.shown with
  | .error fault => (.error (.fault fault), g)
  | .ok field =>
    let (identity, g) := draft.connection.identity.regenerate field g
    (identity.map draft.withIdentity, g)

/-! ## Address -/

def withUrl (draft : Draft) (url : Json) : Draft :=
  { draft with connection := { draft.connection with url := draft.connection.url.set url } }

/-- Takes an address as it was typed; the transport stays as it is. -/
def editUrl (draft : Draft) (url : Json) : Draft :=
  (draft.withUrl url).warned

/-- The draft with another transport and an address for it.  A plain connection has no certificate to
accept, so refusing unauthorized ones is set again. -/
def withTransport (draft : Draft) (transport : Transport) (url : Json) : Draft :=
  let c := draft.connection
  warned
    { draft with
      connection := { c with
        transport
        url := c.url.set url
        rejectUnauthorized := match transport with
          | .plain => c.rejectUnauthorized.set (.bool true)
          | .secure => c.rejectUnauthorized } }

/-- Selects a transport and derives the address from its endpoint. -/
def selectTransport (config : Config) (draft : Draft) (transport : Transport) : Except Error Draft :=
  (deriveUrl config transport draft.endpoints).map fun url => draft.withTransport transport url

/-- Takes over the advertised endpoints, and derives the address anew where the configuration says
so. -/
def loadSettings (config : Config) (draft : Draft) (settings : Option ConnectivitySettings) :
    Except Error Draft :=
  let loaded := { draft with endpoints := draft.endpoints.merge settings }
  if config.rederive.applies draft.editing.isSome then
    (deriveUrl config draft.connection.transport loaded.endpoints).map fun url => loaded.withUrl url
  else .ok loaded

/-! ## Fields -/

/-- A field of the identity with an edited value; a closed field keeps its value. -/
def editOpen (field : Field Json) (value : Json) : Field Json :=
  if field.enabled then field.set value else field

/-- Edits a field of the connection step. -/
def editConnectionField (draft : Draft) (field : ConnectionField) (value : Json) : Draft :=
  let c := draft.connection
  let i := c.identity
  match field with
  | .name => { draft with connection := { c with name := c.name.set value } }
  | .rejectUnauthorized =>
    { draft with connection := { c with rejectUnauthorized := c.rejectUnauthorized.set value } }
  | .credentialsName =>
    draft.withIdentity { i with credentialsName := editOpen i.credentialsName value }
  | .clientId => draft.withIdentity { i with clientId := editOpen i.clientId value }
  | .username => draft.withIdentity { i with username := editOpen i.username value }
  | .password => draft.withIdentity { i with password := editOpen i.password value }

/-- Edits what a name stands for in the connection step. -/
def editConnection (draft : Draft) (field value : Json) : Except Error Draft :=
  if field = .str "url" then .ok (draft.editUrl value)
  else match ConnectionField.ofJson? field with
    | some field => .ok (draft.editConnectionField field value)
    | none => .error (.showing field (.unknownConnectionField field))

/-- Selects a version of the protocol and opens or closes the fields of version 5. -/
def changeVersion (draft : Draft) (version : Json) : Except Error Draft :=
  (liftFault (MqttVersion.ofJson version)).map fun version =>
    let a := draft.advanced
    { draft with
      advanced := { a with
        protocolVersion := a.protocolVersion.set version
        properties := a.properties.gate version.level } }

/-- The unit of time that was entered for a field. -/
def enteredUnit (field : AdvancedField) (value : Json) : Except Error TimeUnit :=
  match TimeUnit.ofJson value with
  | .ok unit => .ok unit
  | .error _ => .error (.showing value (.unknownUnit value field.name))

/-- Edits a field of the advanced step. -/
def editAdvancedField (draft : Draft) (field : AdvancedField) (value : Json) : Except Error Draft :=
  let a := draft.advanced
  let withStep (advanced : AdvancedStep) : Draft := { draft with advanced }
  match field with
  | .cleanStart => .ok (withStep { a with cleanStart := a.cleanStart.set value })
  | .keepAlive => .ok (withStep { a with keepAlive := a.keepAlive.set value })
  | .keepAliveUnit => (enteredUnit field value).map fun unit =>
    withStep { a with keepAliveUnit := a.keepAliveUnit.set unit }
  | .connectTimeout => .ok (withStep { a with connectTimeout := a.connectTimeout.set value })
  | .connectTimeoutUnit => (enteredUnit field value).map fun unit =>
    withStep { a with connectTimeoutUnit := a.connectTimeoutUnit.set unit }
  | .reconnectPeriod => .ok (withStep { a with reconnectPeriod := a.reconnectPeriod.set value })
  | .reconnectPeriodUnit => (enteredUnit field value).map fun unit =>
    withStep { a with reconnectPeriodUnit := a.reconnectPeriodUnit.set unit }
  | .protocolVersion => draft.changeVersion value
  | .property property => (a.properties.edit property value).map fun properties =>
    withStep { a with properties }

/-- Edits what a name stands for in the advanced step. -/
def editAdvanced (draft : Draft) (field value : Json) : Except Error Draft :=
  (AdvancedField.ofJson field).bind fun field => draft.editAdvancedField field value

/-- Takes the entered user properties. -/
def editUserProperties (draft : Draft) (input : PropertyInput) : Except Error Draft :=
  (liftFault input.read).map fun userProperties => { draft with userProperties }

/-! ## Events -/

/-- Applies an event to a draft. -/
def apply (config : Config) (event : Event) (draft : Draft) (g : Generator) :
    Except Error Draft × Generator :=
  match event with
  | .initialise => (.ok draft.settled, g)
  | .selectMode mode => draft.selectMode mode g
  | .changeReference reference? => draft.changeReference reference? g
  | .changeVersion version => (draft.changeVersion version, g)
  | .selectTransport transport =>
    match Transport.ofJson transport with
    | .ok transport => (draft.selectTransport config transport, g)
    | .error fault => (.error (.fault fault), g)
  | .loadSettings settings => (draft.loadSettings config settings, g)
  | .editUrl url => (.ok (draft.editUrl url), g)
  | .editConnection field value => (draft.editConnection field value, g)
  | .editAdvanced field value => (draft.editAdvanced field value, g)
  | .editLastWill lastWill => (.ok { draft with lastWill }, g)
  | .editUserProperties input => (draft.editUserProperties input, g)
  | .editNowhere field => (.error (.showing field (.missingStep field)), g)
  | .regenerate field => draft.regenerate field g

/-- Applies events one after the other, as far as the first that fails. -/
def applyAll (config : Config) (events : List Event) (draft : Draft) (g : Generator) :
    Except Error Draft × Generator :=
  match events with
  | [] => (.ok draft, g)
  | event :: events =>
    match draft.apply config event g with
    | (.ok draft, g) => applyAll config events draft g
    | (.error error, g) => (.error error, g)

end Draft

end MqttProfile
