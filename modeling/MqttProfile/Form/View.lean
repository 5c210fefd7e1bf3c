import MqttProfile.Draft.Basic
import MqttProfile.Form.LastWill

/-!
# Drafts and configurations in forms

What a form shows of a draft and of the configuration.  A field is shown by its value, whether it is open,
and whether it has to be filled in.
-/

namespace MqttProfile

def Field.toForm {α φ : Type} (value : α → Json) (flag : φ → Json) (field : Field α φ) : Json :=
  .arr [value field.value, flag field.enabled, flag field.required]

def Endpoint.toForm (endpoint : Endpoint) : Json :=
  .arr [.str endpoint.host, .int endpoint.port]

def Endpoints.toForm (endpoints : Endpoints) : Json :=
  .obj (Transport.all.map fun t => (t.name, (endpoints.get t).toForm))

def Version5Properties.toForm (properties : Version5Properties) : Json :=
  .obj (Version5Property.all.map fun p => (p.name, (properties.get p).toForm id .bool))

/-- An attached credential, or null. -/
private def attachedForm : Option LinkedCredential → Json
  | some credential => credential.record.toJson
  | none => .null

/-- The fields of an identity by name. -/
def Identity.toForm (identity : Identity) : Json.Members :=
  let text (field : Field Json) := field.toForm id .bool
  [("mode", .str identity.mode.name),
   ("credentials_name", text identity.credentialsName),
   ("client_id", text identity.clientId),
   ("username", text identity.username),
   ("password", text identity.password),
   ("credential_reference", identity.reference.toForm attachedForm .bool),
   ("password_required", .bool identity.password.required)]

/-- The connection step. -/
def ConnectionStep.toForm (c : ConnectionStep) : Json :=
  .obj
    [("name", c.name.toForm id .bool),
     ("url", c.url.toForm id .bool),
     ("reject_unauthorized", c.rejectUnauthorized.toForm id .bool),
     ("transport", .str c.transport.name),
     ("identity", .obj c.identity.toForm)]

/-- The advanced step. -/
def AdvancedStep.toForm (a : AdvancedStep) : Json :=
  let unit (field : Field TimeUnit) := field.toForm (.str ·.name) .bool
  .obj
    [("clean_start", a.cleanStart.toForm id .bool),
     ("keep_alive", a.keepAlive.toForm id .bool),
     ("keep_alive_unit", unit a.keepAliveUnit),
     ("connect_timeout", a.connectTimeout.toForm id .bool),
     ("connect_timeout_unit", unit a.connectTimeoutUnit),
     ("reconnect_period", a.reconnectPeriod.toForm id .bool),
     ("reconnect_period_unit", unit a.reconnectPeriodUnit),
     ("protocol_version", a.protocolVersion.toForm (.int ·.level) .bool),
     ("properties", a.properties.toForm),
     ("mqtt_version", .int a.mqttVersion.level),
     ("v5_enabled", .bool a.properties.enabled)]

/-- A draft.  Whether the page is secure is shown by the value that says so, and that value is also what
becomes of a warning. -/
def Draft.toForm (page : Json) (draft : Draft) : Json :=
  let warns := draft.urlWarning || (!draft.pageIsSecure && draft.connection.transport != .secure)
  .obj
    [("connection", draft.connection.toForm),
     ("advanced", draft.advanced.toForm),
     ("last_will", (draft.lastWill.map LastWill.toForm).getD .null),
     ("user_properties", .arr (draft.userProperties.map fun p => .arr [p.key, p.value])),
     ("endpoints", draft.endpoints.toForm),
     ("editing", .bool draft.editing.isSome),
     ("page_is_secure", page),
     ("url_warning", if warns then page else .bool false),
     ("credential_mode", .str draft.credentialMode.name)]

/-- The configuration. -/
def Config.toForm (config : Config) : Json :=
  .obj
    [("api_base_url", .str config.apiBaseUrl),
     ("request_timeout", .float config.requestTimeout),
     ("default_host", .str config.defaultHost),
     ("ws_port", .int config.wsPort),
     ("wss_port", .int config.wssPort),
     ("url_path", .str config.urlPath),
     ("url_rederive_on_settings_load", .str config.rederive.name),
     ("log_level", .str config.logLevel),
     ("endpoints", .obj (config.endpoints.toList.map fun (name, path) => (name, .str path)))]

end MqttProfile
