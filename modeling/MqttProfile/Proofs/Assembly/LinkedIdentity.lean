import MqttProfile.Proofs.Assembly.Outcome
import MqttProfile.Proofs.Draft.WellFormed

/-!
# The client of an attached credential

Attaching a credential that names a client fills in the client identifier and closes it to edits.  From
then on the identity *follows* the credential: edits of the client identifier are ignored, and another
credential that is attached brings its own.  Two events end this while the credential stays attached:
selecting the mode empties the client identifier, and generating it anew ignores that it is closed.  A
profile that is assembled then is still linked to the credential, but under another client identifier.
-/

namespace MqttProfile

/-- Whether an event may put another client identifier in the place of an attached credential's. -/
def Event.replacesClientId : Event → Bool
  | .selectMode _ => true
  | .regenerate field => field.display == "client_id"
  | _ => false

namespace Identity

/-! ## Following a credential -/

/-- The client identifier is closed and is the one of the attached credential, if that has one. -/
def FollowsCredential (identity : Identity) : Prop :=
  ∀ credential, identity.reference.value = some credential → credential.clientId.truthy = true →
    identity.clientId.value = credential.clientId ∧ identity.clientId.enabled = false

/-- Whatever the identity was, it follows the credential that is attached to it. -/
theorem followsCredential_attach (identity : Identity) (credential : LinkedCredential)
    (editing : Option Profile) (g : Generator) :
    (identity.attach (some credential) editing g).1.FollowsCredential := by
  intro attached hattached hknown
  cases hattached
  -- the credential's client goes before the edited profile's, and closes the field
  simp only [attach, demandPassword, Json.orElse_of_truthy hknown, clientIdOrDrawn, hknown, if_true]
  exact ⟨rfl, rfl⟩

theorem followsCredential_detach (identity : Identity) (editing : Option Profile) (g : Generator) :
    (identity.attach none editing g).1.FollowsCredential := by
  intro attached hattached
  cases hattached

/-- An edit of the identity leaves the client identifier of the credential alone, for it is closed. -/
theorem FollowsCredential.edited {identity : Identity} (h : identity.FollowsCredential)
    (field : ConnectionField) (value : Json) : (identity.edited field value).FollowsCredential := by
  intro credential hattached hknown
  cases field with
  | name | rejectUnauthorized | credentialsName | username | password =>
    exact h credential hattached hknown
  | clientId =>
    have hclosed := h credential hattached hknown
    simp only [Identity.edited, Field.editOpen_of_closed hclosed.2]
    exact hclosed

/-- Once an event has attached a credential, the identity follows the attached one. -/
theorem followsCredential_of_attached {editing : Option Profile} {identity next : Identity}
    {reference : CredentialReference}
    (h : Change editing identity (.changeReference (some reference)) next) : next.FollowsCredential := by
  cases h with
  | attach g _ => exact followsCredential_attach identity _ editing g
  | keep hspared => cases hspared

/-- An event that replaces no client identifier keeps the identity with its credential. -/
theorem FollowsCredential.change {editing : Option Profile} {identity next : Identity} {event : Event}
    (h : identity.FollowsCredential) (hkeeps : event.replacesClientId = false)
    (hchange : Change editing identity event next) : next.FollowsCredential := by
  cases hchange with
  | select _ _ => cases hkeeps
  | detach g => exact followsCredential_detach identity editing g
  | attach g _ => exact followsCredential_attach identity _ editing g
  | @edit _ value field _ => exact h.edited field value
  | regenerate g hname hdrawn =>
    obtain ⟨-, rfl⟩ | ⟨hfield, -⟩ | ⟨-, rfl⟩ := regenerate_ok hdrawn
    · exact h
    · -- the client identifier is generated anew only by an event that replaces it
      rw [Event.replacesClientId, ← Json.eq_display_of_shown hname, hfield, beq_self_eq_true] at hkeeps
      cases hkeeps
    · exact h
  | keep _ => exact h

end Identity

namespace Draft

/-- From the moment a credential is attached, the identity of a draft follows the attached credential
until an event replaces the client identifier. -/
theorem Reached.followsCredential {config : Config} {start draft : Draft} {recent earlier : List Event}
    {reference : CredentialReference}
    (h : Reached config start (recent ++ .changeReference (some reference) :: earlier) draft)
    (hkept : ∀ event ∈ recent, event.replacesClientId = false) :
    draft.connection.identity.FollowsCredential := by
  -- by induction on the events since the credential was attached, the latest first
  induction recent generalizing draft with
  | nil =>
    cases h with
    | step _ happly => exact Identity.followsCredential_of_attached (becomes_of_apply happly).identity
  | cons event recent ih =>
    cases h with
    | step before happly =>
      have hfollows := ih before fun event hmem => hkept event (List.mem_cons_of_mem _ hmem)
      exact hfollows.change (hkept event List.mem_cons_self) (becomes_of_apply happly).identity

/-! ## Assembled profiles -/

variable {σ : Type}

/-- A profile that is assembled from a draft with an attached credential in the mode for stored
credentials is linked to that credential.  It has the client identifier of the credential if, since one
was attached, no mode was selected and the client identifier was not generated anew. -/
theorem linked_clientId_of_not_replaced (config : Config) (store : CredentialStore σ)
    (user : Option String) (start draft : Draft) (events : List Event) (credential : LinkedCredential)
    (clientId : String) (g : Generator) (world : σ) (assembly : Assembly)
    (hreached : Reached config start events draft) (hmode : draft.credentialMode = .existing)
    (hattached : draft.connection.identity.reference.value = some credential)
    (hclient : credential.clientId = .str clientId) (hgiven : Text.blank clientId = false)
    (h : (draft.assemble store user g world).1 = .ok assembly) :
    assembly.profile.configuration.clientCredentialsId = .str credential.record.id
      ∧ ∀ recent reference earlier, events = recent ++ .changeReference (some reference) :: earlier →
        (∀ event ∈ recent, event.replacesClientId = false) →
        assembly.profile.configuration.clientId = .str (Text.trim clientId) := by
  have hassembled := assembled_of_ne_auto (by rw [hmode]; decide) h
  refine ⟨?_, ?_⟩
  · rw [hassembled.1, hattached]
    rfl
  · rintro recent reference earlier rfl hkept
    have hgiven' : Json.Given (.str clientId) := (Json.given_str_iff clientId).mpr hgiven
    have hknown : credential.clientId.truthy = true := by
      rw [hclient, Json.truthy_str_iff]
      exact hgiven'.ne_empty
    have hvalue : draft.connection.identity.clientId.value = .str clientId := by
      rw [(hreached.followsCredential hkept credential hattached hknown).1, hclient]
    have hleft : draft.connection.identity.clientId.value.trimmed.truthy = true := by
      rw [hvalue, Json.trimmed, Json.truthy_trim_iff]
      exact hgiven'
    rw [hassembled.2, assembledClientId_of_truthy g hleft, hvalue]
    rfl

/-! ### A credential for a sensor -/

/-- A stored credential for a client that is named `sensor`. -/
def sensor : LinkedCredential where
  record := ⟨"c1", .str "Sensor", .str "\x7b\"clientId\": \"sensor\"\x7d"⟩
  decoded := [("clientId", .str "sensor")]
  decode_eq := by decide +kernel

/-- The events that attach it in the mode for stored credentials, the latest first. -/
def sensorEvents : List Event :=
  [.changeReference (some sensor.record), .selectMode (.str "EXISTING")]

/-- A first draft to which it is attached. -/
def withSensor (g : Generator) : Draft :=
  let selected := (first g).withIdentity ((first g).connection.identity.selectMode .existing none g).1
  selected.withIdentity (selected.connection.identity.attach (some sensor) none g).1

theorem reached_withSensor (g : Generator) :
    Reached Config.standard (first g) sensorEvents (withSensor g) :=
  (Reached.refl.selectMode (by decide) g).attach sensor g

/-- With the credential just attached, the profile is linked to it and has its client identifier. -/
theorem sensor_profile_agrees :
    ∃ assembly,
      ((withSensor (.ofStep 0 7)).assemble (CredentialStore.broken (σ := Unit) "") none (.ofStep 0 7)
          ()).1 = .ok assembly
        ∧ assembly.profile.configuration.clientCredentialsId = .str "c1"
        ∧ assembly.profile.configuration.clientId = .str "sensor" := by
  let g : Generator := .ofStep 0 7
  have hcheck : (withSensor g).check = .ok ⟨60, 30000, 1000⟩ := by decide +kernel
  have hok := assemble_of_ne_auto (CredentialStore.broken (σ := Unit) "") none g () (by decide) hcheck rfl
  obtain ⟨hlinked, hclient⟩ := linked_clientId_of_not_replaced Config.standard _ none (first g)
    (withSensor g) sensorEvents sensor "sensor" g () _ (reached_withSensor g) rfl rfl (by decide)
    (by decide) hok
  have hnone : ∀ event ∈ ([] : List Event), event.replacesClientId = false := by
    intro event hmem
    cases hmem
  have hid := hclient [] sensor.record _ rfl hnone
  refine ⟨_, hok, hlinked, ?_⟩
  rw [hid]
  decide

/-- One more event leads to a profile that is linked to the credential, but has another client
identifier. -/
def Estranges (event : Event) : Prop :=
  ∃ draft assembly, Reached Config.standard (first (.ofStep 0 7)) (event :: sensorEvents) draft
    ∧ draft.credentialMode = .existing
    ∧ draft.connection.identity.reference.value = some sensor
    ∧ (draft.assemble (CredentialStore.broken (σ := Unit) "") none (.ofStep 0 7) ()).1 = .ok assembly
    ∧ assembly.profile.configuration.clientCredentialsId = .str "c1"
    ∧ assembly.profile.configuration.clientId ≠ .str "sensor"

/-- Selecting the mode once more and generating the client identifier anew both do so. -/
theorem sensor_profile_estranged :
    Estranges (.selectMode (.str "EXISTING")) ∧ Estranges (.regenerate (.str "client_id")) := by
  let g : Generator := .ofStep 0 7
  constructor
  · -- the mode empties the client identifier and leaves the credential attached
    let draft := (withSensor g).withIdentity
      ((withSensor g).connection.identity.selectMode .existing none g).1
    have hreached : Reached Config.standard (first g) (.selectMode (.str "EXISTING") :: sensorEvents)
        draft := (reached_withSensor g).selectMode (by decide) g
    have hcheck : draft.check = .ok ⟨60, 30000, 1000⟩ := by decide +kernel
    have hok := assemble_of_ne_auto (CredentialStore.broken (σ := Unit) "") none g () (by decide) hcheck rfl
    obtain ⟨hlinked, hclient⟩ := assembled_of_ne_auto (by decide) hok
    refine ⟨draft, _, hreached, rfl, rfl, hok, hlinked, ?_⟩
    rw [hclient]
    decide +kernel
  · -- what is generated takes the place of the closed value
    let draft := (withSensor g).withIdentity
      { (withSensor g).connection.identity with
        clientId := (withSensor g).connection.identity.clientId.set (.str g.clientId.1) }
    have hreached : Reached Config.standard (first g) (.regenerate (.str "client_id") :: sensorEvents)
        draft := (reached_withSensor g).regenerate g rfl
    have hcheck : draft.check = .ok ⟨60, 30000, 1000⟩ := by decide +kernel
    have hok := assemble_of_ne_auto (CredentialStore.broken (σ := Unit) "") none g () (by decide) hcheck rfl
    obtain ⟨hlinked, hclient⟩ := assembled_of_ne_auto (by decide) hok
    refine ⟨draft, _, hreached, rfl, rfl, hok, hlinked, ?_⟩
    rw [hclient]
    decide +kernel

end Draft

end MqttProfile
