import MqttProfile.Proofs.Assembly.Outcome
import MqttProfile.Proofs.Credential
import MqttProfile.Store.Memory

/-!
# What the stores in memory keep

A credential that was issued is found again under its identifier, and says what it was issued for.  Saving
a profile completes its identifier and its time of creation, leaves everything else of it as it is, and does
not touch the credentials.
-/

namespace MqttProfile

/-! ## The memory -/

namespace Memory

/-- What was put under an identifier is found there. -/
theorem lookup_put {α : Type} (id : String) (entry : α) (entries : List (String × α)) :
    (put id entry entries).lookup id = some entry := by
  induction entries with
  | nil => rw [put, List.lookup_cons_self]
  | cons head entries ih =>
    obtain ⟨i, e⟩ := head
    rw [put]
    by_cases h : i = id
    · rw [if_pos h, h, List.lookup_cons_self]
    · have hne : (id == i) = false := beq_eq_false_iff_ne.mpr (Ne.symm h)
      rw [if_neg h, List.lookup_cons, hne]
      exact ih

/-- An entry under a fresh identifier comes last, and all others stay as they are. -/
theorem put_of_fresh {α : Type} {id : String} (entry : α) {entries : List (String × α)}
    (hfresh : ∀ other ∈ entries, other.1 ≠ id) : put id entry entries = entries ++ [(id, entry)] := by
  induction entries with
  | nil => rfl
  | cons head entries ih =>
    obtain ⟨i, e⟩ := head
    have hhead : i ≠ id := hfresh (i, e) List.mem_cons_self
    have htail := ih fun other hmem => hfresh other (List.mem_cons_of_mem _ hmem)
    rw [put, if_neg hhead, htail, List.cons_append]

/-- What is found under an identifier is found there as long as entries are only added behind. -/
theorem fetch_of_append {memory later : Memory} {added : List (String × CredentialReference)}
    (hlater : later.credentials = memory.credentials ++ added) {id : Json} {found : CredentialReference}
    (h : memory.fetch id = .ok found) : later.fetch id = .ok found := by
  cases id with
  | str s =>
    rw [fetch] at h ⊢
    rw [hlater, List.lookup_append]
    cases hlookup : memory.credentials.lookup s with
    | none =>
      rw [hlookup] at h
      cases h
    | some reference =>
      rw [hlookup] at h
      exact h
  | null | bool _ | int _ | float _ | arr _ | obj _ => cases h

/-- The record that is issued for a client, under the next identifier. -/
def nextRecord (supply : Supply) (name clientId username : Json) (memory : Memory) : CredentialReference where
  id := supply.id memory.idsUsed
  name
  credentialsValue := .str (Credentials.text clientId username .null)

/-- The memory that keeps it. -/
def withNextRecord (supply : Supply) (name clientId username : Json) (memory : Memory) : Memory :=
  let record := memory.nextRecord supply name clientId username
  { memory with
    idsUsed := memory.idsUsed + 1
    credentials := put record.id record memory.credentials }

/-- For a client and a user that are texts a record is issued. -/
theorem issue_of_isText (supply : Supply) (name : Json) {clientId username : Json} (memory : Memory)
    (hclient : clientId.IsText) (huser : username.IsText) :
    memory.issue supply name clientId username
      = (.ok (memory.nextRecord supply name clientId username),
          memory.withNextRecord supply name clientId username) := by
  have hwrite : Credentials.write clientId username .null
      = .ok (Credentials.text clientId username .null) :=
    Json.write_of_writable _ (Credentials.writable_content_of_isText hclient huser)
  simp only [issue, hwrite]
  rfl

/-- An issued record is found under its identifier as long as the credentials stay the same. -/
theorem fetch_nextRecord (supply : Supply) (name clientId username : Json) (memory later : Memory)
    (h : later.credentials = (memory.withNextRecord supply name clientId username).credentials) :
    later.fetch (.str (memory.nextRecord supply name clientId username).id)
      = .ok (memory.nextRecord supply name clientId username) := by
  rw [fetch, h]
  dsimp only [withNextRecord]
  rw [lookup_put]

/-- A record that is issued for a client and a user says so, and has no password. -/
theorem exists_linked_nextRecord (supply : Supply) (name : Json) {clientId username : Json} (memory : Memory)
    (hclient : clientId.IsText) (huser : username.IsText) :
    ∃ credential : LinkedCredential,
      credential.record = memory.nextRecord supply name clientId username
        ∧ credential.clientId = clientId.orNull ∧ credential.userName = username
        ∧ credential.hasPassword = false := by
  have hdecoded := Credentials.decode_text (memory.nextRecord supply name clientId username) rfl hclient huser
  exact ⟨⟨_, _, hdecoded⟩, rfl, rfl, rfl, Credentials.hasPassword_members clientId username⟩

/-- Saving completes the identifier and the time of creation, and nothing else. -/
theorem exists_save_eq (supply : Supply) (profile : Profile) (memory : Memory) :
    (∃ id createdTime, (memory.save supply profile).1 = { profile with id, createdTime })
      ∧ (memory.save supply profile).2.credentials = memory.credentials := by
  rw [save, complete]
  cases hid : profile.id with
  | none => exact ⟨⟨_, _, rfl⟩, rfl⟩
  | some id =>
    -- the time of creation is the stored one, a new one or the profile's own
    dsimp only
    split
    · split
      · exact ⟨⟨some id, _, rfl⟩, rfl⟩
      · exact ⟨⟨some id, _, rfl⟩, rfl⟩
    · exact ⟨⟨some id, profile.createdTime, by rw [← hid]⟩, rfl⟩

end Memory

/-- In the generated mode a draft is linked to the record that the memory issues for it. -/
theorem Draft.linkedReference_memory (supply : Supply) {draft : Draft} (hmode : draft.credentialMode = .auto)
    (hclient : draft.connection.identity.clientId.value.IsText)
    (huser : draft.connection.identity.username.value.IsText) (memory : Memory) :
    draft.linkedReference (Memory.credentialStore supply) memory
      = (.ok (some (memory.nextRecord supply draft.connection.identity.credentialsName.value.trimmed
            draft.connection.identity.clientId.value.trimmed
            draft.connection.identity.username.value.trimmed)),
          memory.withNextRecord supply draft.connection.identity.credentialsName.value.trimmed
            draft.connection.identity.clientId.value.trimmed
            draft.connection.identity.username.value.trimmed) := by
  have hissue := Memory.issue_of_isText supply draft.connection.identity.credentialsName.value.trimmed memory
    hclient.trimmed huser.trimmed
  rw [linkedReference_of_auto _ hmode, issueCredentials]
  simp only [Memory.credentialStore, hissue]
  rfl

/-- A draft that is assembled is saved in memory, where its profile is completed. -/
theorem Draft.save_memory_of_assemble (supply : Supply) {credentials : CredentialStore Memory}
    {user : Option String} {draft : Draft} {g g' : Generator} {memory before : Memory}
    {assembly : Assembly} (h : draft.assemble credentials user g memory = (.ok assembly, g', before)) :
    draft.save credentials (Memory.profileStore supply) user g memory
      = (.ok { assembly with profile := (before.save supply assembly.profile).1 }, g',
          (before.save supply assembly.profile).2) :=
  save_of_assemble credentials (Memory.profileStore supply) user g memory h

/-- A draft that is saved in memory was assembled, and its profile was completed by the store. -/
theorem Draft.save_memory_ok {supply : Supply} {credentials : CredentialStore Memory}
    {user : Option String} {draft : Draft} {g g' : Generator} {memory memory' : Memory}
    {saved : Assembly}
    (h : draft.save credentials (Memory.profileStore supply) user g memory = (.ok saved, g', memory')) :
    ∃ assembly before, draft.assemble credentials user g memory = (.ok assembly, g', before)
      ∧ saved.profile = (before.save supply assembly.profile).1
      ∧ memory' = (before.save supply assembly.profile).2 := by
  rw [Draft.save] at h
  cases hassemble : draft.assemble credentials user g memory with
  | mk outcome rest =>
    obtain ⟨g₁, before⟩ := rest
    rw [hassemble] at h
    cases outcome with
    | error error => cases h
    | ok assembly =>
      cases h
      exact ⟨assembly, before, rfl, rfl, rfl⟩

end MqttProfile
