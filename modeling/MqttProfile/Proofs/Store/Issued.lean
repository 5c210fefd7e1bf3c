import MqttProfile.Proofs.Assembly.Password
import MqttProfile.Proofs.Store.Reopened

/-!
# Credentials issued for profiles

In the generated mode a credential is issued for the identity of a draft before the draft is merged.  The
credential keeps the identity as a text of its own, so that it has to be read back from there to be
compared with the profile.  The two agree, whatever texts were entered, and under a fresh identifier the
store has just one record more.
-/

namespace MqttProfile

namespace Draft

/-- A draft that passes its check in the generated mode has a name of credentials and a client
identifier. -/
theorem given_of_check_auto {draft : Draft} {intervals : Intervals} (hmode : draft.credentialMode = .auto)
    (h : draft.check = .ok intervals) :
    draft.connection.identity.credentialsName.value.Given
      ∧ draft.connection.identity.clientId.value.Given := by
  obtain ⟨hconnection, -, -⟩ := (check_eq_ok_iff draft intervals).mp h
  obtain ⟨_, -, hrest⟩ := exists_of_bind_eq_ok hconnection
  obtain ⟨_, -, hidentity⟩ := exists_of_bind_eq_ok hrest
  have hauto : draft.connection.identity.mode = .auto := hmode
  rw [checkIdentity, hauto] at hidentity
  obtain ⟨_, hname, hclients⟩ := exists_of_bind_eq_ok hidentity
  obtain ⟨_, hclient, -⟩ := exists_of_bind_eq_ok hclients
  exact ⟨((checks_demand .connection "credentials_name" _).passes ()).mp hname,
    ((checks_demand .connection "client_id" _).passes ()).mp hclient⟩

/-- A profile has the user name that was entered, without the blanks around it. -/
theorem assembled_username {σ : Type} {store : CredentialStore σ} {user : Option String} {draft : Draft}
    {g : Generator} {world : σ} {assembly : Assembly}
    (h : (draft.assemble store user g world).1 = .ok assembly) :
    assembly.profile.configuration.username = draft.connection.identity.username.value.trimmed := by
  obtain ⟨intervals, reference?, -, -, -, rfl, -⟩ :=
    (assemble_eq_ok_iff store user draft g _ world _ assembly).mp (Prod.ext h rfl)
  rw [merged_configuration]
  rfl

/-- A profile that is assembled in the generated mode, with the credentials in memory, is linked to the
one record that is new there: all earlier records are as they were, and the new one is found under the link
of the profile.  The record has the name that was entered, without the blanks around it, and its text names
the client and the user of the profile and no password; nor is one handed over if the field for it is
closed and empty. -/
theorem issued_credential_matches_profile (supply : Supply) (user : Option String) (draft : Draft)
    (g g' : Generator) (memory memory' : Memory) (assembly : Assembly)
    (hmode : draft.credentialMode = .auto)
    (hclient : draft.connection.identity.clientId.value.IsText)
    (huser : draft.connection.identity.username.value.IsText)
    (hfresh : ∀ entry ∈ memory.credentials, entry.1 ≠ supply.id memory.idsUsed)
    (h : draft.assemble (Memory.credentialStore supply) user g memory = (.ok assembly, g', memory')) :
    ∃ credential : LinkedCredential,
      memory'.credentials = memory.credentials ++ [(credential.record.id, credential.record)]
        ∧ (∀ id found, memory.fetch id = .ok found → memory'.fetch id = .ok found)
        ∧ memory'.fetch assembly.profile.configuration.clientCredentialsId = .ok credential.record
        ∧ credential.clientId = assembly.profile.configuration.clientId
        ∧ credential.userName = assembly.profile.configuration.username
        ∧ credential.record.name = draft.connection.identity.credentialsName.value.trimmed
        ∧ credential.hasPassword = false
        ∧ (draft.connection.identity.password.enabled = false → draft.enteredPassword = .null →
          assembly.password = .null) := by
  have hpassword := assembled_password (congrArg Prod.fst h)
  have husername := assembled_username (congrArg Prod.fst h)
  obtain ⟨intervals, reference?, hcheck, hlinked, -, rfl, -⟩ :=
    (assemble_eq_ok_iff _ user draft g g' memory memory' assembly).mp h
  rw [linkedReference_memory supply hmode hclient huser] at hlinked
  cases hlinked
  obtain ⟨credential, hrecord, hnamed, huserName, hnone⟩ := Memory.exists_linked_nextRecord supply
    draft.connection.identity.credentialsName.value.trimmed memory hclient.trimmed huser.trimmed
  have hadded : (memory.withNextRecord supply draft.connection.identity.credentialsName.value.trimmed
      draft.connection.identity.clientId.value.trimmed
      draft.connection.identity.username.value.trimmed).credentials
        = memory.credentials ++ [(credential.record.id, credential.record)] := by
    rw [hrecord]
    exact Memory.put_of_fresh _ hfresh
  refine ⟨credential, hadded, fun id found => Memory.fetch_of_append hadded, ?_, ?_, ?_, ?_, hnone, ?_⟩
  · rw [merged_configuration, hrecord]
    exact Memory.fetch_nextRecord supply _ _ _ memory _ rfl
  · -- the check demands a client identifier, so that the merge takes no other one
    have htruthy := hclient.truthy_trimmed_iff.mpr (given_of_check_auto hmode hcheck).2
    rw [merged_configuration, hnamed, Json.orNull, Json.orElse_of_truthy htruthy]
    exact (congrArg Prod.fst (assembledClientId_of_truthy g htruthy)).symm
  · rw [huserName, husername]
  · rw [hrecord]
    rfl
  · intro _ hnull
    rw [hpassword, hnull]
    rfl

/-- A first draft with quotes and blanks in its user name. -/
def withQuotedUser (g : Generator) : Draft :=
  let identity := (first g).connection.identity
  (first g).withIdentity { identity with username := identity.username.set (.str " \"ü\" ") }

/-- The record that is issued for it comes behind the one that is there, and names the user without the
blanks. -/
theorem quoted_user_issued :
    ∃ assembly g' memory', ∃ credential : LinkedCredential,
      (withQuotedUser (.ofStep 0 7)).assemble (Memory.credentialStore countingSupply) none (.ofStep 0 7)
          (.ofCredentials [("c1", ⟨"c1", .str "Sensor", .null⟩)]) = (.ok assembly, g', memory')
        ∧ memory'.credentials
          = [("c1", ⟨"c1", .str "Sensor", .null⟩), (credential.record.id, credential.record)]
        ∧ memory'.fetch assembly.profile.configuration.clientCredentialsId = .ok credential.record
        ∧ assembly.profile.configuration.username = .str "\"ü\""
        ∧ credential.userName = .str "\"ü\""
        ∧ assembly.password = .null := by
  let g : Generator := .ofStep 0 7
  let memory : Memory := .ofCredentials [("c1", ⟨"c1", .str "Sensor", .null⟩)]
  have hcheck : (withQuotedUser g).check = .ok ⟨60, 30000, 1000⟩ := by decide +kernel
  have hmode : (withQuotedUser g).credentialMode = .auto := rfl
  obtain ⟨assembly, g', memory', h⟩ : ∃ assembly g' memory', (withQuotedUser g).assemble
      (Memory.credentialStore countingSupply) none g memory = (.ok assembly, g', memory') :=
    ⟨_, _, _, assemble_of_linked _ none g memory hcheck
      (linkedReference_memory countingSupply hmode trivial trivial memory) rfl⟩
  have hfresh : ∀ entry ∈ memory.credentials, entry.1 ≠ countingSupply.id memory.idsUsed := by decide
  obtain ⟨credential, hadded, -, hfetch, -, huser, -, -, hpassword⟩ :=
    issued_credential_matches_profile countingSupply none (withQuotedUser g) g g' memory memory' assembly
      hmode trivial trivial hfresh h
  have husername : assembly.profile.configuration.username = .str "\"ü\"" := by
    rw [assembled_username (congrArg Prod.fst h)]
    decide +kernel
  exact ⟨assembly, g', memory', credential, h, hadded, hfetch, husername, huser.trans husername,
    hpassword rfl rfl⟩

end Draft

end MqttProfile
