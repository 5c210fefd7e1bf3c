import MqttProfile.Credential.Reference
import MqttProfile.Error
import MqttProfile.Field
import MqttProfile.Identifier.Generator
import MqttProfile.Profile.Basic

/-!
# Identity of a connection

A draft takes the identity of its client in one of three modes: generated, typed in, or from a stored
credential.  The mode decides which fields are open; attaching a credential fills them in.  The password
has to be given exactly when the attached credential has one.
-/

namespace MqttProfile

/-- Where the identity of a client comes from. -/
inductive CredentialMode where
  /-- The identity is generated and credentials are issued for it. -/
  | auto
  /-- The identity is typed in. -/
  | custom
  /-- The identity is that of a stored credential. -/
  | existing
deriving DecidableEq, Repr

namespace CredentialMode

def all : List CredentialMode := [.auto, .custom, .existing]

def name : CredentialMode → String
  | .auto => "AUTO"
  | .custom => "CUSTOM"
  | .existing => "EXISTING"

/-- The mode that a value names. -/
def ofJson : Json → Except Fault CredentialMode
  | .str s => match all.find? (·.name == s) with
    | some mode => .ok mode
    | none => .error .badValue
  | _ => .error .badValue

/-- The mode in which a draft starts: a new one generates, and an edited profile is linked to a stored
credential or not. -/
def initial : Option Profile → CredentialMode
  | none => .auto
  | some profile => if profile.configuration.clientCredentialsId = .null then .custom else .existing

end CredentialMode

/-- The fields of an identity. -/
structure Identity where
  mode : CredentialMode
  credentialsName : Field Json
  clientId : Field Json
  username : Field Json
  password : Field Json
  reference : Field (Option LinkedCredential)
deriving DecidableEq

namespace Identity

/-- Demands a password exactly when the attached credential has one. -/
def demandPassword (identity : Identity) : Identity :=
  { identity with
    password := identity.password.require (identity.reference.value.any (·.hasPassword)) }

/-- The client identifier of the edited profile, or null if there is none. -/
def storedClientId (editing : Option Profile) : Json :=
  match editing with
  | some profile => profile.configuration.clientId.orNull
  | none => .null

/-- The user name of the edited profile, or null if there is none. -/
def storedUsername (editing : Option Profile) : Json :=
  match editing with
  | some profile => profile.configuration.username.orNull
  | none => .null

/-- A client identifier that is there, or else a generated one. -/
def clientIdOrDrawn (clientId : Json) (g : Generator) : Json × Generator :=
  if clientId.truthy then (clientId, g)
  else
    let (drawn, g) := g.clientId
    (.str drawn, g)

/-! ## Modes -/

/-- Generates an identity and closes its fields. -/
def selectAuto (identity : Identity) (g : Generator) : Identity × Generator :=
  let (credentialsName, g) := g.credentialsName
  let (clientId, g) := g.clientId
  let (username, g) := g.username
  ({ mode := .auto
     credentialsName := (identity.credentialsName.set (.str credentialsName)).lock
     clientId := (identity.clientId.set (.str clientId)).lock
     username := (identity.username.set (.str username)).lock
     password := (identity.password.set .null).lock
     reference := .plain none }, g)

/-- Opens the fields on the identity of the edited profile; a client identifier that is missing is
generated. -/
def selectCustom (identity : Identity) (editing : Option Profile) (g : Generator) :
    Identity × Generator :=
  let (clientId, g) := clientIdOrDrawn (storedClientId editing) g
  ({ mode := .custom
     credentialsName := identity.credentialsName
     clientId := (identity.clientId.set clientId).unlock
     username := (identity.username.set (storedUsername editing)).unlock
     password := (identity.password.set .null).unlock
     reference := .plain none }, g)

/-- Empties and closes the fields that a credential fills in, and demands that one is attached. -/
def selectExisting (identity : Identity) : Identity where
  mode := .existing
  credentialsName := identity.credentialsName.unlock
  clientId := (identity.clientId.set .null).lock
  username := (identity.username.set .null).lock
  password := (identity.password.set .null).unlock
  reference := identity.reference.require true

/-- Selects a mode. -/
def selectMode (identity : Identity) (mode : CredentialMode) (editing : Option Profile)
    (g : Generator) : Identity × Generator :=
  let (selected, g) := match mode with
    | .auto => identity.selectAuto g
    | .custom => identity.selectCustom editing g
    | .existing => (identity.selectExisting, g)
  (selected.demandPassword, g)

/-! ## Credentials -/

/-- Attaches a credential or takes it away.  An attached one fills in the client identifier, which stays
open only if the credential has none, and the user name. -/
def attach (identity : Identity) (credential? : Option LinkedCredential) (editing : Option Profile)
    (g : Generator) : Identity × Generator :=
  let attached := { identity with reference := identity.reference.set credential? }
  match credential? with
  | none => (attached.demandPassword, g)
  | some credential =>
    let known := credential.clientId
    let (clientId, g) := clientIdOrDrawn (known.orElse (storedClientId editing)) g
    let filled := attached.clientId.set clientId
    (demandPassword
      { attached with
        clientId := if known.truthy then filled.lock else filled.unlock
        username := attached.username.set credential.userName
        password := attached.password.set .null }, g)

/-- Generates the value of a field anew. -/
def regenerate (identity : Identity) (field : String) (g : Generator) :
    Except Error Identity × Generator :=
  match field with
  | "credentials_name" =>
    let (drawn, g) := g.credentialsName
    (.ok { identity with credentialsName := identity.credentialsName.set (.str drawn) }, g)
  | "client_id" =>
    let (drawn, g) := g.clientId
    (.ok { identity with clientId := identity.clientId.set (.str drawn) }, g)
  | "username" =>
    let (drawn, g) := g.username
    (.ok { identity with username := identity.username.set (.str drawn) }, g)
  | field => (.error (.notRegenerable field), g)

/-! ## The start -/

/-- The client identifier and the user name of the edited profile, or generated ones for a new draft. -/
def seedNames (editing : Option Profile) (g : Generator) : Json × Json × Generator :=
  match editing with
  | some profile => (profile.configuration.clientId, profile.configuration.username, g)
  | none =>
    let (clientId, g) := g.clientId
    let (username, g) := g.username
    (.str clientId, .str username, g)

/-- The identity of a draft that starts: names are generated or taken over, and then the mode is
selected. -/
def initial (editing : Option Profile) (g : Generator) : Identity × Generator :=
  let (credentialsName, g) := g.credentialsName
  let (clientId, username, g) := seedNames editing g
  let seed : Identity := {
    mode := .auto
    credentialsName := ⟨.str credentialsName, false, true⟩
    clientId := ⟨clientId, false, true⟩
    username := ⟨username, false, false⟩
    password := .plain .null
    reference := .plain none }
  seed.selectMode (.initial editing) editing g

end Identity

end MqttProfile
