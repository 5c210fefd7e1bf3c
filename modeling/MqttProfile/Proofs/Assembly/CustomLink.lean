import MqttProfile.Proofs.Assembly.LinkedIdentity

/-!
# Links of profiles whose identity was typed in

Selecting a mode in which the identity is generated or typed in takes the attached credential away, but
attaching one is possible in every mode.  So a profile whose identity was typed in is linked to a stored
credential if one was attached after the mode was selected, and only then; when it is opened again, its
identity is one from a stored credential.
-/

namespace MqttProfile

/-- What the credential was last changed to since a mode was last selected: to one that was attached, or
to none.  The latest event comes first. -/
def Event.lastChange : List Event → Option CredentialReference
  | [] => none
  | .changeReference reference? :: _ => reference?
  | .selectMode _ :: _ => none
  | _ :: earlier => lastChange earlier

theorem Event.lastChange_of_spares {event : Event} (h : event.sparesIdentity = true)
    (events : List Event) : lastChange (event :: events) = lastChange events := by
  cases event with
  | selectMode _ | changeReference _ | regenerate _ => cases h
  | _ => rfl

namespace Identity

/-- The record of the attached credential, if one is attached. -/
def attachedRecord (identity : Identity) : Option CredentialReference :=
  identity.reference.value.map (·.record)

/-- Outside the mode for stored credentials the attached one is what the credential was last changed
to. -/
def HoldsChange (changed : Option CredentialReference) (identity : Identity) : Prop :=
  identity.mode ≠ .existing → identity.attachedRecord = changed

/-- Selecting another mode than that for stored credentials takes the attached one away. -/
theorem holdsChange_selectMode (identity : Identity) (mode : CredentialMode) (editing : Option Profile)
    (g : Generator) : (identity.selectMode mode editing g).1.HoldsChange none := by
  intro hmode
  rw [mode_selectMode] at hmode
  cases mode with
  | auto | custom => rfl
  | existing => exact absurd rfl hmode

theorem HoldsChange.edited {changed : Option CredentialReference} {identity : Identity}
    (h : identity.HoldsChange changed) (field : ConnectionField) (value : Json) :
    (identity.edited field value).HoldsChange changed := by
  rw [HoldsChange, mode_edited, attachedRecord, reference_edited]
  exact h

/-- Whatever happened to an identity, it holds what its credential was last changed to. -/
theorem Arises.holdsChange {rule : Identity → Event → Prop} {editing : Option Profile}
    {events : List Event} {identity : Identity} (h : Arises rule editing events identity) :
    identity.HoldsChange (Event.lastChange events) := by
  induction h with
  | initial g =>
    rw [Identity.initial]
    exact holdsChange_selectMode _ _ editing _
  | @change _ _ identity _ _ _ hchange ih =>
    cases hchange with
    | select g _ => exact holdsChange_selectMode identity _ editing g
    | detach _ => exact fun _ => rfl
    | attach _ hlink => exact fun _ => congrArg some (CredentialReference.record_of_link hlink)
    | @edit _ value field _ => exact ih.edited field value
    | regenerate g _ hdrawn =>
      obtain ⟨hmode, -, hreference⟩ := frame_of_regenerate hdrawn
      rw [HoldsChange, hmode, attachedRecord, hreference]
      exact ih
    | keep hspares =>
      rw [Event.lastChange_of_spares hspares]
      exact ih

end Identity

namespace Draft

variable {σ : Type}

theorem linkTo_eq_null_iff (reference? : Option CredentialReference) :
    linkTo reference? = .null ↔ reference? = none := by
  cases reference? with
  | none => exact iff_of_true rfl rfl
  | some reference => exact iff_of_false (fun h => nomatch h) (fun h => nomatch h)

/-- A flow starts with the identity typed in exactly if the profile that it edits has no link. -/
theorem Started.mode_eq_custom_iff {config : Config} {draft : Draft} {earlier : List Event}
    {c : Configuration} (h : Started config earlier draft)
    (hediting : draft.editing.map (·.configuration) = some c) :
    draft.credentialMode = .custom ↔ c.clientCredentialsId = .null := by
  rw [h.mode_eq]
  cases hprofile : draft.editing with
  | none =>
    rw [hprofile] at hediting
    cases hediting
  | some profile =>
    rw [hprofile] at hediting
    cases hediting
    rw [CredentialMode.initial]
    by_cases hlink : profile.configuration.clientCredentialsId = .null
    · rw [if_pos hlink]
      exact iff_of_true rfl hlink
    · rw [if_neg hlink]
      exact iff_of_false (by decide) hlink

/-- A profile whose identity was typed in is linked to the credential that was last attached after the
mode was selected, unless it was taken away again.  It has no link exactly if there is no such credential,
and exactly then a flow that edits it, opened with its credential or not, starts with the identity typed
in. -/
theorem custom_profile_unlinked_iff (config : Config) (store : CredentialStore σ) (user : Option String)
    (start draft : Draft) (earlier events : List Event) (g : Generator) (world : σ) (assembly : Assembly)
    (hstart : Started config earlier start) (hreached : Reached config start events draft)
    (hmode : draft.credentialMode = .custom)
    (h : (draft.assemble store user g world).1 = .ok assembly) :
    assembly.profile.configuration.clientCredentialsId = linkTo (Event.lastChange (events ++ earlier))
      ∧ (assembly.profile.configuration.clientCredentialsId = .null
        ↔ Event.lastChange (events ++ earlier) = none)
      ∧ ∀ config' earlier' reopened, Started config' earlier' reopened →
        reopened.editing.map (·.configuration) = some assembly.profile.configuration →
        (reopened.credentialMode = .custom ↔ Event.lastChange (events ++ earlier) = none) := by
  have hstored : draft.credentialMode ≠ .existing := by
    rw [hmode]
    decide
  have hattached := (hreached.arises hstart).holdsChange hstored
  have hlink : assembly.profile.configuration.clientCredentialsId
      = linkTo (Event.lastChange (events ++ earlier)) := by
    rw [(assembled_of_ne_auto (by rw [hmode]; decide) h).1, ← hattached]
    rfl
  refine ⟨hlink, ?_, ?_⟩
  · rw [hlink, linkTo_eq_null_iff]
  · intro config' earlier' reopened hreopened hediting
    rw [hreopened.mode_eq_custom_iff hediting, hlink, linkTo_eq_null_iff]

/-- A first draft with the identity typed in after a credential was attached to it. -/
def withoutSensor (g : Generator) : Draft :=
  (withSensor g).withIdentity ((withSensor g).connection.identity.selectMode .custom none g).1

/-- Its profile has no link, and is edited with the identity typed in. -/
theorem typed_profile_unlinked :
    ∃ assembly reopened,
      ((withoutSensor (.ofStep 0 7)).assemble (CredentialStore.broken (σ := Unit) "") none (.ofStep 0 7)
          ()).1 = .ok assembly
        ∧ assembly.profile.configuration.clientCredentialsId = .null
        ∧ (Draft.ofProfile Config.standard false assembly.profile (.ofStep 0 7)).1 = .ok reopened
        ∧ reopened.credentialMode = .custom := by
  let g : Generator := .ofStep 0 7
  have hreached : Reached Config.standard (first g) (.selectMode (.str "CUSTOM") :: sensorEvents)
      (withoutSensor g) := (reached_withSensor g).selectMode (by decide) g
  have hcheck : (withoutSensor g).check = .ok ⟨60, 30000, 1000⟩ := by decide +kernel
  have hdetached : (withoutSensor g).connection.identity.reference.value.map (·.record) = none := rfl
  have hok := assemble_of_ne_auto (CredentialStore.broken (σ := Unit) "") none g () (by decide) hcheck rfl
  -- only what is read of the profile is computed
  obtain ⟨profile, hprofile⟩ :
      ∃ profile, profile = (withoutSensor g).merged ⟨60, 30000, 1000⟩ none none g := ⟨_, rfl⟩
  rw [hdetached, ← hprofile] at hok
  have htransport : Transport.ofUrl profile.configuration.url = .ok .plain := by
    rw [hprofile]
    decide +kernel
  have hwill : storedWill profile.configuration = .ok none := by
    rw [hprofile]
    decide +kernel
  obtain ⟨-, hunlinked, hmode⟩ := custom_profile_unlinked_iff Config.standard _ none (first g)
    (withoutSensor g) [] _ g () _ (.begun (begun_first g)) hreached rfl hok
  have hopened := congrArg Prod.fst (ofProfile_of_read Config.standard false g htransport hwill)
  have hediting := congrArg (Option.map (·.configuration)) (editing_of_ofProfile hopened)
  have hreopened := hmode Config.standard [] _ (.begun (.edited hopened)) hediting
  exact ⟨_, _, hok, hunlinked.mpr rfl, hopened, hreopened.mpr rfl⟩

/-- A first draft to which a credential was attached after its identity was to be typed in. -/
def withLateSensor (g : Generator) : Draft :=
  let selected := (first g).withIdentity ((first g).connection.identity.selectMode .custom none g).1
  selected.withIdentity (selected.connection.identity.attach (some sensor) none g).1

/-- Its profile is linked to the credential, and is edited with the identity of a stored one. -/
theorem late_credential_linked :
    ∃ assembly,
      Reached Config.standard (first (.ofStep 0 7))
          [.changeReference (some sensor.record), .selectMode (.str "CUSTOM")]
          (withLateSensor (.ofStep 0 7))
        ∧ (withLateSensor (.ofStep 0 7)).credentialMode = .custom
        ∧ ((withLateSensor (.ofStep 0 7)).assemble (CredentialStore.broken (σ := Unit) "") none
            (.ofStep 0 7) ()).1 = .ok assembly
        ∧ assembly.profile.configuration.clientCredentialsId = .str "c1"
        ∧ CredentialMode.initial (some assembly.profile) = .existing := by
  let g : Generator := .ofStep 0 7
  have hreached : Reached Config.standard (first g)
      [.changeReference (some sensor.record), .selectMode (.str "CUSTOM")] (withLateSensor g) :=
    (Reached.refl.selectMode (by decide) g).attach sensor g
  have hcheck : (withLateSensor g).check = .ok ⟨60, 30000, 1000⟩ := by decide +kernel
  have hok := assemble_of_ne_auto (CredentialStore.broken (σ := Unit) "") none g () (by decide) hcheck rfl
  exact ⟨_, hreached, rfl, hok, rfl, rfl⟩

end Draft

end MqttProfile
