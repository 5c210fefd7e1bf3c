import MqttProfile.Proofs.Assembly.Legal
import MqttProfile.Proofs.Assembly.Password

/-!
# The demand for a password

A password is demanded as long as a credential is attached that has one, and at no other time: selecting a
mode and changing the credential set the demand anew, and no other event touches it.  Outside the generated
mode the field is open, so the check sees the demand.  A profile with such a credential is therefore only
assembled together with a password, which is recorded and handed over.
-/

namespace MqttProfile

/-- A credential has a password exactly if its text names one that is neither null nor empty. -/
theorem LinkedCredential.hasPassword_iff (credential : LinkedCredential) :
    credential.hasPassword = true
      ↔ Json.memberOrNull "password" credential.decoded ≠ .null
        ∧ Json.memberOrNull "password" credential.decoded ≠ .str "" := by
  rw [LinkedCredential.hasPassword, Credentials.hasPassword, Bool.and_eq_true, bne_iff_ne, bne_iff_ne]

namespace Identity

/-- A password is demanded exactly if the attached credential has one, and outside the generated mode it
can be typed in. -/
structure DemandsPassword (identity : Identity) : Prop where
  required : identity.password.required = identity.reference.value.any (·.hasPassword)
  enabled : identity.mode ≠ .auto → identity.password.enabled = true

/-- Selecting a mode sets the demand anew. -/
theorem demandsPassword_selectMode (identity : Identity) (mode : CredentialMode)
    (editing : Option Profile) (g : Generator) :
    (identity.selectMode mode editing g).1.DemandsPassword := by
  cases mode with
  | auto => exact ⟨rfl, fun hmode => absurd (mode_selectMode identity .auto editing g) hmode⟩
  | custom => exact ⟨rfl, fun _ => rfl⟩
  | existing => exact ⟨rfl, fun _ => rfl⟩

theorem DemandsPassword.attach {identity : Identity} (h : identity.DemandsPassword)
    (credential? : Option LinkedCredential) (editing : Option Profile) (g : Generator) :
    (identity.attach credential? editing g).1.DemandsPassword := by
  cases credential? with
  | none => exact ⟨rfl, h.enabled⟩
  | some credential => exact ⟨rfl, h.enabled⟩

theorem DemandsPassword.edited {identity : Identity} (h : identity.DemandsPassword)
    (field : ConnectionField) (value : Json) : (identity.edited field value).DemandsPassword := by
  cases field with
  | name | rejectUnauthorized | credentialsName | clientId | username => exact ⟨h.required, h.enabled⟩
  | password =>
    exact ⟨(Field.required_editOpen _ value).trans h.required,
      fun hmode => (Field.enabled_editOpen _ value).trans (h.enabled hmode)⟩

/-- Every identity demands a password exactly if the attached credential has one. -/
theorem Arises.demandsPassword {rule : Identity → Event → Prop} {editing : Option Profile}
    {events : List Event} {identity : Identity} (h : Arises rule editing events identity) :
    identity.DemandsPassword := by
  induction h with
  | initial g =>
    rw [Identity.initial]
    exact demandsPassword_selectMode _ _ editing _
  | @change _ _ identity _ _ _ hchange ih =>
    cases hchange with
    | select g _ => exact demandsPassword_selectMode identity _ editing g
    | detach g => exact ih.attach none editing g
    | attach g _ => exact ih.attach _ editing g
    | @edit _ value field _ => exact ih.edited field value
    | regenerate g _ hdrawn =>
      obtain ⟨hmode, hpassword, hreference⟩ := frame_of_regenerate hdrawn
      constructor
      · rw [hpassword, hreference]
        exact ih.required
      · rw [hpassword, hmode]
        exact ih.enabled
    | keep _ => exact ih

theorem DemandsPassword.required_iff {identity : Identity} (h : identity.DemandsPassword) :
    identity.password.required = true
      ↔ ∃ credential, identity.reference.value = some credential ∧ credential.hasPassword = true := by
  rw [h.required, Option.any_eq_true]

end Identity

namespace Draft

variable {σ : Type}

/-- A draft from which a profile is assembled has a password if one is demanded. -/
theorem given_of_demanded {store : CredentialStore σ} {user : Option String} {draft : Draft}
    {g : Generator} {world : σ} {assembly : Assembly} (hdraft : draft.WellFormed)
    (hdemands : draft.connection.identity.DemandsPassword) (hmode : draft.credentialMode ≠ .auto)
    (hrequired : draft.connection.identity.password.required = true)
    (h : (draft.assemble store user g world).1 = .ok assembly) : draft.enteredPassword.Given := by
  obtain ⟨intervals, -, hcheck, -⟩ :=
    (assemble_eq_ok_iff store user draft g _ world _ assembly).mp (Prod.ext h rfl)
  obtain ⟨hconnection, -, -⟩ := (check_eq_ok_iff draft intervals).mp hcheck
  obtain ⟨-, -, hlegal⟩ := ((checks_connection hdraft).passes ()).mp hconnection
  exact hlegal.password hmode (hdemands.enabled hmode) hrequired

/-- In every reached draft a password is demanded exactly if a credential is attached whose text names a
password that is neither null nor empty.  A profile that is assembled with such a credential in the mode
for stored ones records that it needs a password, and one that is more than blanks is handed over. -/
theorem password_required_iff_credential_has_one (config : Config) (start draft : Draft)
    (earlier events : List Event) (hstart : Started config earlier start)
    (hreached : Reached config start events draft) :
    (draft.connection.identity.password.required = true
        ↔ ∃ credential, draft.connection.identity.reference.value = some credential
          ∧ Json.memberOrNull "password" credential.decoded ≠ .null
          ∧ Json.memberOrNull "password" credential.decoded ≠ .str "")
      ∧ ∀ (store : CredentialStore σ) (user : Option String) (g : Generator) (world : σ)
          (assembly : Assembly) (credential : LinkedCredential),
        draft.credentialMode = .existing → draft.enteredPassword.IsText →
        draft.connection.identity.reference.value = some credential → credential.hasPassword = true →
        (draft.assemble store user g world).1 = .ok assembly →
        assembly.profile.configuration.passwordRequired = true
          ∧ ∃ s, assembly.password = .str s ∧ Text.blank s = false := by
  have hdemands := (hreached.arises hstart).demandsPassword
  constructor
  · rw [hdemands.required_iff]
    simp only [LinkedCredential.hasPassword_iff]
  · intro store user g world assembly credential hmode htext hattached hpassword h
    have hrequired := hdemands.required_iff.mpr ⟨credential, hattached, hpassword⟩
    have hgiven := given_of_demanded (hreached.wellFormed hstart.wellFormed) hdemands
      (by rw [hmode]; decide) hrequired h
    obtain ⟨s, hs, hblank⟩ := htext.exists_str hgiven
    refine ⟨?_, s, ?_, (Json.given_str_iff s).mp hblank⟩
    · rw [assembled_passwordRequired h, htext.truthy_trimmed_iff]
      exact hgiven
    · rw [assembled_password h, hs, hblank.orNull_eq]

/-- A stored credential with a password. -/
def vault : LinkedCredential where
  record := ⟨"c3", .str "Vault", .str "\x7b\"clientId\": \"vault\", \"password\": \"0\"\x7d"⟩
  decoded := [("clientId", .str "vault"), ("password", .str "0")]
  decode_eq := by decide +kernel

/-- A first draft to which it is attached, with a password typed in. -/
def withVault (g : Generator) : Draft :=
  let selected := (first g).withIdentity ((first g).connection.identity.selectMode .existing none g).1
  let attached := selected.withIdentity (selected.connection.identity.attach (some vault) none g).1
  attached.editConnectionField .password (.str " key ")

/-- The password is demanded, recorded and handed over as it was typed. -/
theorem vault_password_handed_over :
    (withVault (.ofStep 0 7)).connection.identity.password.required = true
      ∧ ∃ assembly,
        ((withVault (.ofStep 0 7)).assemble (CredentialStore.broken (σ := Unit) "") none (.ofStep 0 7)
            ()).1 = .ok assembly
          ∧ assembly.profile.configuration.passwordRequired = true
          ∧ ∃ s, assembly.password = .str s ∧ Text.blank s = false := by
  let g : Generator := .ofStep 0 7
  have hreached : Reached Config.standard (first g)
      [.editConnection (.str "password") (.str " key "), .changeReference (some vault.record),
        .selectMode (.str "EXISTING")] (withVault g) :=
    ((Reached.refl.selectMode (by decide) g).attach vault g).step (g := g) rfl
  have hcheck : (withVault g).check = .ok ⟨60, 30000, 1000⟩ := by decide +kernel
  have hok := assemble_of_ne_auto (CredentialStore.broken (σ := Unit) "") none g () (by decide) hcheck rfl
  obtain ⟨hrequired, hassembled⟩ := password_required_iff_credential_has_one (σ := Unit) Config.standard
    (first g) (withVault g) [] _ (.begun (begun_first g)) hreached
  refine ⟨hrequired.mpr ⟨vault, rfl, by decide, by decide⟩, _, hok, ?_⟩
  exact hassembled _ none g () _ vault rfl trivial rfl (by decide) hok

end Draft

end MqttProfile
