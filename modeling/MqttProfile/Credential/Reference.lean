import MqttProfile.Json.Display
import MqttProfile.Json.Reader

/-!
# Stored credentials

A record of the credential store carries a JSON text with the client identifier, the user name and the
password that it was issued for.  A record whose text can be decoded is *linked* together with what it
decodes to, so that whoever holds a linked record reads it without failing.
-/

namespace MqttProfile

/-- A record of the credential store. -/
structure CredentialReference where
  id : String
  name : Json
  credentialsValue : Json
deriving DecidableEq

namespace CredentialReference

/-- Reads a record; the identifier has to be there, and a name that is false counts as empty. -/
def ofJson (payload : Json) : Except Fault CredentialReference := do
  let id ← (← payload.require "id").shown
  let members ← payload.asObject
  let name ← ((Json.memberOrNull "name" members).orElse (.str "")).shown
  return {
    id
    name := .str name
    credentialsValue := Json.memberOrNull "credentialsValue" members }

def toJson (reference : CredentialReference) : Json :=
  .obj
    [("id", .str reference.id), ("name", reference.name),
     ("credentialsValue", reference.credentialsValue)]

/-- The members of the text that the record carries; no text and a text of another kind than an object
have none. -/
def decode (reference : CredentialReference) : Except Fault Json.Members :=
  if reference.credentialsValue.truthy then
    match reference.credentialsValue with
    | .str s => (Json.ofText s).map fun decoded => decoded.members?.getD []
    | _ => .error .wrongKind
  else .ok []

end CredentialReference

/-! ## What the text of a record says -/

namespace Credentials

def clientId (decoded : Json.Members) : Json :=
  (Json.memberOrNull "clientId" decoded).orNull

def userName (decoded : Json.Members) : Json :=
  Json.memberOrNull "userName" decoded

def hasPassword (decoded : Json.Members) : Bool :=
  let password := Json.memberOrNull "password" decoded
  password != .null && password != .str ""

/-- What a record says of a client, with rules that allow every topic. -/
def content (clientId username password : Json) : Json :=
  .obj
    [("clientId", clientId), ("userName", username), ("password", password),
     ("authRules", .obj
       [("pubAuthRulePatterns", .arr [.str ".*"]), ("subAuthRulePatterns", .arr [.str ".*"])])]

/-- The text of a record for a client, whatever integers stand for its names. -/
def text (clientId username password : Json) : String :=
  Json.toText Json.spaced (content clientId username password)

/-- Writes the text of a record for a client. -/
def write (clientId username password : Json) : Except Fault String :=
  Json.write Json.spaced (content clientId username password)

/-- The text of a record can be written when the names of the client and its password can. -/
theorem writable_content (clientId username password : Json) :
    (content clientId username password).writable
      = (clientId.writable && username.writable && password.writable) := by
  simp [content, Json.writable, Json.membersWritable, Json.itemsWritable, Bool.and_assoc]

end Credentials

/-- A record with what its text decodes to. -/
structure LinkedCredential where
  record : CredentialReference
  decoded : Json.Members
  decode_eq : record.decode = .ok decoded
deriving DecidableEq

namespace LinkedCredential

def clientId (credential : LinkedCredential) : Json := Credentials.clientId credential.decoded

def userName (credential : LinkedCredential) : Json := Credentials.userName credential.decoded

def hasPassword (credential : LinkedCredential) : Bool := Credentials.hasPassword credential.decoded

end LinkedCredential

/-- Decodes a record once and for all. -/
def CredentialReference.link (reference : CredentialReference) : Except Fault LinkedCredential :=
  match h : reference.decode with
  | .ok decoded => .ok ⟨reference, decoded, h⟩
  | .error fault => .error fault

/-- A record is linked to what it decodes to. -/
theorem CredentialReference.link_eq_ok {reference : CredentialReference} {decoded : Json.Members}
    (h : reference.decode = .ok decoded) : reference.link = .ok ⟨reference, decoded, h⟩ := by
  unfold link
  split
  · rename_i other h'
    rw [h] at h'
    cases h'
    rfl
  · rename_i fault h'
    rw [h] at h'
    cases h'

/-- A record that cannot be decoded is not linked. -/
theorem CredentialReference.link_eq_error {reference : CredentialReference} {fault : Fault}
    (h : reference.decode = .error fault) : reference.link = .error fault := by
  unfold link
  split
  · rename_i other h'
    rw [h] at h'
    cases h'
  · rename_i other h'
    rw [h] at h'
    cases h'
    rfl

/-- A record that can be linked is the one that is linked. -/
theorem CredentialReference.record_of_link {reference : CredentialReference}
    {credential : LinkedCredential} (h : reference.link = .ok credential) :
    credential.record = reference := by
  unfold link at h
  split at h
  · cases h
    rfl
  · cases h

end MqttProfile
