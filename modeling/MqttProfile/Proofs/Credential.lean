import MqttProfile.Profile.Basic
import MqttProfile.Proofs.Entered
import MqttProfile.Proofs.Json.Ascii
import MqttProfile.Proofs.Json.RoundTrip

/-!
# Identities in the texts of credentials

The text of a record is written from an identity and carries it in printable ASCII.  Reading the text gives the
identity back, whatever characters the client identifier, the user name and the password are made of: quotes,
line breaks, other scripts and pairs of UTF-16 units.  An empty client identifier is read as none, and of the
password a record tells only whether there is one.
-/

namespace MqttProfile

theorem exact_of_isText {value : Json} (h : value.IsText) : value.Exact := by
  cases value with
  | null | str _ => trivial
  | bool _ | int _ | float _ | arr _ | obj _ => exact h.elim

namespace Credentials

/-- What the text of a record for a client says, member by member. -/
def members (clientId username password : Json) : Json.Members :=
  [("clientId", clientId), ("userName", username), ("password", password),
   ("authRules", .obj
     [("pubAuthRulePatterns", .arr [.str ".*"]), ("subAuthRulePatterns", .arr [.str ".*"])])]

/-- The members are exact if the values in them are. -/
theorem exact_members {clientId username password : Json} (hclient : clientId.Exact)
    (huser : username.Exact) (hpassword : password.Exact) :
    (Json.obj (members clientId username password)).Exact := by
  refine ⟨?_, hclient, huser, hpassword, ?_, trivial⟩
  · show ["clientId", "userName", "password", "authRules"].Nodup
    decide
  · refine ⟨?_, ⟨trivial, trivial⟩, ⟨trivial, trivial⟩, trivial⟩
    show ["pubAuthRulePatterns", "subAuthRulePatterns"].Nodup
    decide

theorem writable_content_of_isText {clientId username : Json} (hclient : clientId.IsText)
    (huser : username.IsText) : (content clientId username .null).writable = true := by
  rw [writable_content, hclient.writable, huser.writable]
  rfl

/-- A record with the text for an identity is decoded to its members, if the text can be written. -/
theorem decode_identity (reference : CredentialReference) {clientId username password : Json}
    (htext : reference.credentialsValue = .str (text clientId username password))
    (hwritable : (content clientId username password).writable = true)
    (hclient : clientId.Exact) (huser : username.Exact) (hpassword : password.Exact) :
    reference.decode = .ok (members clientId username password) := by
  have htruthy : (Json.str (text clientId username password)).truthy = true :=
    Json.truthy_toText Json.spaced _
  have hread : Json.ofText (text clientId username password) = .ok (.obj (members clientId username password)) :=
    Json.ofText_toText Json.lawful_spaced hwritable (exact_members hclient huser hpassword)
  rw [CredentialReference.decode, htext, if_pos htruthy]
  dsimp only
  rw [hread]
  rfl

/-- So is one with the text for a client without a password. -/
theorem decode_text (reference : CredentialReference) {clientId username : Json}
    (htext : reference.credentialsValue = .str (text clientId username .null))
    (hclient : clientId.IsText) (huser : username.IsText) :
    reference.decode = .ok (members clientId username .null) :=
  decode_identity reference htext (writable_content_of_isText hclient huser) (exact_of_isText hclient)
    (exact_of_isText huser) trivial

/-- An empty client identifier is read as none. -/
theorem clientId_members (id : String) (username password : Json) :
    clientId (members (.str id) username password) = if id = "" then .null else .str id := by
  show (Json.str id).orNull = _
  split
  · rename_i hempty
    rw [hempty]
    rfl
  · rename_i hfilled
    exact Json.orElse_of_truthy ((Json.truthy_str_iff id).mpr hfilled) .null

theorem userName_members (id username password : Json) :
    userName (members id username password) = username := rfl

theorem hasPassword_members (id username : Json) : hasPassword (members id username .null) = false := rfl

/-- A password counts unless it is missing or empty. -/
theorem hasPassword_members_iff (id username : Json) (password : Option String) :
    hasPassword (members id username (Profile.textOrNull password)) = true
      ↔ ∃ secret, password = some secret ∧ secret ≠ "" := by
  cases password with
  | none => exact iff_of_false (nomatch ·) fun ⟨_, hnone, _⟩ => nomatch hnone
  | some secret =>
    show (Json.str secret != .null && Json.str secret != .str "") = true ↔ _
    simp

theorem isAscii_text (clientId username password : Json) :
    Text.IsAscii (text clientId username password).toList := by
  rw [text, Json.toText, String.toList_ofList]
  exact Json.isAscii_render Json.ascii_spaced _

theorem isText_textOrNull (value : Option String) : (Profile.textOrNull value).IsText := by
  cases value <;> trivial

/-- The text for an identity is written.  A record with it can be linked, and then tells the identity that the
text was written from: the client identifier, or null if that is empty, the user name, and whether there is a
password that is not empty.  The text itself is printable ASCII. -/
theorem identity_of_text (id : String) (name : Json) (clientId : String) (username password : Option String) :
    write (.str clientId) (Profile.textOrNull username) (Profile.textOrNull password)
        = .ok (text (.str clientId) (Profile.textOrNull username) (Profile.textOrNull password))
      ∧ ∃ credential : LinkedCredential,
      CredentialReference.link
          ⟨id, name, .str (text (.str clientId) (Profile.textOrNull username) (Profile.textOrNull password))⟩
        = .ok credential
        ∧ credential.clientId = (if clientId = "" then .null else .str clientId)
        ∧ credential.userName = Profile.textOrNull username
        ∧ (credential.hasPassword = true ↔ ∃ secret, password = some secret ∧ secret ≠ "")
        ∧ Text.IsAscii
          (text (.str clientId) (Profile.textOrNull username) (Profile.textOrNull password)).toList := by
  have hwritable : (content (.str clientId) (Profile.textOrNull username)
      (Profile.textOrNull password)).writable = true := by
    rw [writable_content, (isText_textOrNull username).writable, (isText_textOrNull password).writable]
    rfl
  have hdecoded := decode_identity
    ⟨id, name, .str (text (.str clientId) (Profile.textOrNull username) (Profile.textOrNull password))⟩ rfl
    hwritable trivial (exact_of_isText (isText_textOrNull username))
    (exact_of_isText (isText_textOrNull password))
  exact ⟨Json.write_of_writable _ hwritable, _, CredentialReference.link_eq_ok hdecoded,
    clientId_members clientId _ _, userName_members _ _ _, hasPassword_members_iff _ _ password,
    isAscii_text _ _ _⟩

end Credentials

end MqttProfile
