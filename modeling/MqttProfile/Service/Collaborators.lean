import MqttProfile.Config.Basic
import MqttProfile.Password.Session
import MqttProfile.Service.Network
import MqttProfile.Store.Basic

/-!
# Collaborators over the network

The stores and sources that ask a service.  Each makes one request per call, at the path that the
configuration gives it, and reads the answer.
-/

namespace MqttProfile.Network

/-- Makes a request and reads what comes back. -/
def reading {α : Type} (read : Json → Except Error α)
    (outcome : Except Error Json × Network) : Except Error α × Network :=
  (outcome.1.bind read, outcome.2)

/-- The identifier itself where it is wrapped in an object. -/
private def unwrapId (members : Json.Members) : Except Fault Json.Members :=
  match Json.lookup "id" members with
  | some (.obj wrapper) => (Json.require "id" (.obj wrapper)).map fun id => Json.insert "id" id members
  | _ => .ok members

def readCredential : Json → Except Error CredentialReference
  | .obj members =>
    liftFault ((unwrapId members).bind fun members => CredentialReference.ofJson (.obj members))
  | _ => .error .unexpectedPayload

def readSettings (payload : Json) : Except Error ConnectivitySettings := do
  let members ← liftFault (payload.orElse (.obj [])).asObject
  liftIntake <| ConnectivitySettings.ofJson <|
    (Json.memberOrNull "jsonValue" members).orElse (.obj [])

def readPolicy (payload : Json) : Except Error PasswordPolicy :=
  liftIntake (PasswordPolicy.ofJson (payload.orElse (.obj [])))

/-- What is posted to issue credentials of a name with a text. -/
def issueBody (name : Json) (text : String) : Json :=
  .obj
    [("name", name), ("clientType", .str "DEVICE"), ("credentialsType", .str "MQTT_BASIC"),
     ("credentialsValue", .str text)]

/-- The store of credentials of a service. -/
def credentialStore (paths : ServicePaths) : CredentialStore Network where
  issue name clientId username network :=
    match Credentials.write clientId username .null with
    | .error fault => (.error (.fault fault), network)
    | .ok text => reading readCredential (network.post paths.clientCredentials (issueBody name text))
  fetch id network :=
    match id.shown with
    | .error fault => (.error (.fault fault), network)
    | .ok id => reading readCredential (network.get (paths.clientCredentials ++ "/" ++ id))

/-- The store of profiles of a service. -/
def profileStore (paths : ServicePaths) : ProfileStore Network where
  save profile network :=
    reading (fun payload => liftFault (Profile.ofJson payload))
      (network.post paths.connections profile.toJson)

/-- The source of connectivity settings of a service. -/
def settingsSource (paths : ServicePaths) : SettingsSource Network where
  fetch network :=
    reading (fun payload => (readSettings payload).map some) (network.get paths.connectivitySettings)

/-- The source of password policies of a service. -/
def policySource (paths : ServicePaths) : PolicySource Network where
  fetch network := reading readPolicy (network.get paths.passwordPolicy)

end MqttProfile.Network
