import MqttProfile.Proofs.Draft.Started

/-!
# Well-formed drafts

What every reached draft has in common, whatever was entered: the flags of the fields that no event
opens, closes or makes optional, and the warning that follows from the transport.  Checking a draft relies
on these flags, for it looks at a field only while it is open and has to be filled in.
-/

namespace MqttProfile

namespace Field

variable {α : Type}

/-- The field can be edited and has to be filled in. -/
def IsMandatory (field : Field α) : Prop :=
  field.enabled = true ∧ field.required = true

/-- The field can be edited and left empty. -/
def IsPlain (field : Field α) : Prop :=
  field.enabled = true ∧ field.required = false

@[simp]
theorem required_editOpen (field : Field Json) (value : Json) :
    (Draft.editOpen field value).required = field.required := by
  rw [Draft.editOpen]
  split <;> rfl

@[simp]
theorem enabled_editOpen (field : Field Json) (value : Json) :
    (Draft.editOpen field value).enabled = field.enabled := by
  rw [Draft.editOpen]
  split <;> rfl

theorem editOpen_of_closed {field : Field Json} (h : field.enabled = false) (value : Json) :
    Draft.editOpen field value = field := by
  rw [Draft.editOpen, h, if_neg Bool.false_ne_true]

end Field

/-! ## Identities -/

namespace Identity

/-- The demands on the fields of an identity that stay the same in every mode. -/
structure WellFormed (identity : Identity) : Prop where
  credentialsName : identity.credentialsName.required = true
  clientId : identity.clientId.required = true
  username : identity.username.required = false

theorem WellFormed.selectMode {identity : Identity} (h : identity.WellFormed) (mode : CredentialMode)
    (editing : Option Profile) (g : Generator) :
    (identity.selectMode mode editing g).1.WellFormed := by
  cases mode with
  | auto => exact ⟨h.credentialsName, h.clientId, h.username⟩
  | custom => exact ⟨h.credentialsName, h.clientId, h.username⟩
  | existing => exact ⟨h.credentialsName, h.clientId, h.username⟩

/-- Attaching a credential or taking it away keeps these demands. -/
theorem WellFormed.attach {identity : Identity} (h : identity.WellFormed)
    (credential? : Option LinkedCredential) (editing : Option Profile) (g : Generator) :
    (identity.attach credential? editing g).1.WellFormed := by
  cases credential? with
  | none => exact ⟨h.credentialsName, h.clientId, h.username⟩
  | some credential =>
    -- a client that the credential names closes the field, which changes no demand
    refine ⟨h.credentialsName, ?_, h.username⟩
    simp only [Identity.attach, demandPassword]
    split <;> exact h.clientId

/-- What is generated anew takes the place of one of three values. -/
theorem regenerate_ok {identity next : Identity} {field : String} {g : Generator}
    (h : (identity.regenerate field g).1 = .ok next) :
    (field = "credentials_name"
        ∧ next = { identity with
            credentialsName := identity.credentialsName.set (.str g.credentialsName.1) })
      ∨ (field = "client_id"
        ∧ next = { identity with clientId := identity.clientId.set (.str g.clientId.1) })
      ∨ (field = "username"
        ∧ next = { identity with username := identity.username.set (.str g.username.1) }) := by
  unfold regenerate at h
  split at h
  · cases h
    exact .inl ⟨rfl, rfl⟩
  · cases h
    exact .inr (.inl ⟨rfl, rfl⟩)
  · cases h
    exact .inr (.inr ⟨rfl, rfl⟩)
  · cases h

/-- Generating a value anew leaves the mode, the password and the attached credential as they are. -/
theorem frame_of_regenerate {identity next : Identity} {field : String} {g : Generator}
    (h : (identity.regenerate field g).1 = .ok next) :
    next.mode = identity.mode ∧ next.password = identity.password
      ∧ next.reference = identity.reference := by
  obtain ⟨-, rfl⟩ | ⟨-, rfl⟩ | ⟨-, rfl⟩ := regenerate_ok h
  · exact ⟨rfl, rfl, rfl⟩
  · exact ⟨rfl, rfl, rfl⟩
  · exact ⟨rfl, rfl, rfl⟩

/-- Every event keeps these demands. -/
theorem WellFormed.change {editing : Option Profile} {identity next : Identity} {event : Event}
    (h : identity.WellFormed) (hchange : Change editing identity event next) : next.WellFormed := by
  cases hchange with
  | select g _ => exact h.selectMode _ editing g
  | detach g => exact h.attach none editing g
  | attach g _ => exact h.attach _ editing g
  | @edit _ value field _ =>
    cases field with
    | name | rejectUnauthorized | password => exact ⟨h.credentialsName, h.clientId, h.username⟩
    | credentialsName =>
      exact ⟨(Field.required_editOpen _ value).trans h.credentialsName, h.clientId, h.username⟩
    | clientId =>
      exact ⟨h.credentialsName, (Field.required_editOpen _ value).trans h.clientId, h.username⟩
    | username =>
      exact ⟨h.credentialsName, h.clientId, (Field.required_editOpen _ value).trans h.username⟩
  | regenerate g _ hdrawn =>
    obtain ⟨-, rfl⟩ | ⟨-, rfl⟩ | ⟨-, rfl⟩ := regenerate_ok hdrawn
    · exact ⟨h.credentialsName, h.clientId, h.username⟩
    · exact ⟨h.credentialsName, h.clientId, h.username⟩
    · exact ⟨h.credentialsName, h.clientId, h.username⟩
  | keep _ => exact h

/-- In the generated mode the name of the credentials is a text, and the field for it is closed. -/
def NamedIfGenerated (identity : Identity) : Prop :=
  identity.mode = .auto →
    identity.credentialsName.enabled = false ∧ ∃ s, identity.credentialsName.value = .str s

theorem namedIfGenerated_selectMode (identity : Identity) (mode : CredentialMode)
    (editing : Option Profile) (g : Generator) :
    (identity.selectMode mode editing g).1.NamedIfGenerated := by
  intro hauto
  rw [mode_selectMode] at hauto
  rw [hauto]
  exact ⟨rfl, _, rfl⟩

/-- Every event keeps such a name. -/
theorem NamedIfGenerated.change {editing : Option Profile} {identity next : Identity} {event : Event}
    (h : identity.NamedIfGenerated) (hchange : Change editing identity event next) :
    next.NamedIfGenerated := by
  cases hchange with
  | select g _ => exact namedIfGenerated_selectMode identity _ editing g
  | detach g => exact h
  | attach g _ => exact h
  | @edit _ value field _ =>
    cases field with
    | name | rejectUnauthorized | clientId | username | password => exact h
    | credentialsName =>
      intro hauto
      obtain ⟨hclosed, hname⟩ := h hauto
      rw [edited, Field.editOpen_of_closed hclosed]
      exact ⟨hclosed, hname⟩
  | regenerate g _ hdrawn =>
    obtain ⟨-, rfl⟩ | ⟨-, rfl⟩ | ⟨-, rfl⟩ := regenerate_ok hdrawn
    · exact fun hauto => ⟨(h hauto).1, _, rfl⟩
    · exact h
    · exact h
  | keep _ => exact h

theorem wellFormed_initial (editing : Option Profile) (g : Generator) :
    (Identity.initial editing g).1.WellFormed := by
  rw [Identity.initial]
  exact WellFormed.selectMode ⟨rfl, rfl, rfl⟩ _ editing _

end Identity

/-! ## Drafts -/

/-- The flags of the fields of the advanced step that every version has. -/
structure AdvancedStep.WellFormed (advanced : AdvancedStep) : Prop where
  cleanStart : advanced.cleanStart.IsPlain
  keepAlive : advanced.keepAlive.IsMandatory
  keepAliveUnit : advanced.keepAliveUnit.IsPlain
  connectTimeout : advanced.connectTimeout.IsMandatory
  connectTimeoutUnit : advanced.connectTimeoutUnit.IsPlain
  reconnectPeriod : advanced.reconnectPeriod.IsMandatory
  reconnectPeriodUnit : advanced.reconnectPeriodUnit.IsPlain
  protocolVersion : advanced.protocolVersion.IsPlain

namespace Draft

/-- What every reached draft has in common. -/
structure WellFormed (draft : Draft) : Prop where
  name : draft.connection.name.IsMandatory
  url : draft.connection.url.IsMandatory
  identity : draft.connection.identity.WellFormed
  advanced : draft.advanced.WellFormed
  urlWarning : draft.urlWarning = draft.connection.transport.blockedOn draft.pageIsSecure

/-- An edit of the advanced step keeps its flags. -/
theorem wellFormed_advanced_of_edit {draft next : Draft} {field : AdvancedField} {value : Json}
    (h : draft.advanced.WellFormed) (hedit : draft.editAdvancedField field value = .ok next) :
    next.advanced.WellFormed := by
  cases field with
  | protocolVersion =>
    obtain ⟨version, -, rfl⟩ := changeVersion_ok hedit
    exact { h with }
  | cleanStart | keepAlive | connectTimeout | reconnectPeriod =>
    cases hedit
    exact { h with }
  | keepAliveUnit | connectTimeoutUnit | reconnectPeriodUnit | property _ =>
    obtain ⟨_, -, rfl⟩ := exists_of_map_eq_ok hedit
    exact { h with }

/-- Every step keeps a draft well-formed. -/
theorem WellFormed.becomes {config : Config} {draft next : Draft} {event : Event} (h : draft.WellFormed)
    (hstep : Becomes config draft event next) : next.WellFormed := by
  have hidentity := h.identity.change hstep.identity
  cases hstep with
  | initialise => exact { h with advanced := { h.advanced with }, urlWarning := rfl }
  | selectMode _ _ | detach _ | attach _ _ | regenerate _ _ _ => exact { h with identity := hidentity }
  | changeVersion _ => exact { h with advanced := { h.advanced with } }
  | selectTransport _ _ => exact { h with urlWarning := rfl }
  | loadSettings _ =>
    rw [loaded]
    split <;> exact { h with }
  | editUrl _ | editUrlField _ => exact { h with urlWarning := rfl }
  | @editConnection _ _ field _ =>
    cases field with
    | name | rejectUnauthorized => exact { h with }
    | credentialsName | clientId | username | password => exact { h with identity := hidentity }
  | editAdvanced _ hedit =>
    have hadvanced := wellFormed_advanced_of_edit h.advanced hedit
    rw [eq_with_advanced_of_edit hedit]
    exact { h with advanced := hadvanced }
  | editLastWill _ | editUserProperties _ => exact { h with }

theorem wellFormed_of_new {config : Config} {pageIsSecure : Bool} {connections : Int} {g : Generator}
    {draft : Draft} (h : (Draft.new config pageIsSecure connections g).1 = .ok draft) : draft.WellFormed := by
  obtain ⟨name, -, -, rfl⟩ := new_ok h
  refine ⟨⟨rfl, rfl⟩, ⟨rfl, rfl⟩, Identity.wellFormed_initial none g, ?_, rfl⟩
  constructor <;> exact ⟨rfl, rfl⟩

theorem wellFormed_of_ofProfile {config : Config} {pageIsSecure : Bool} {profile : Profile}
    {g : Generator} {draft : Draft}
    (h : (Draft.ofProfile config pageIsSecure profile g).1 = .ok draft) : draft.WellFormed := by
  obtain ⟨transport, lastWill, -, -, rfl⟩ := ofProfile_ok h
  refine ⟨⟨rfl, rfl⟩, ⟨rfl, rfl⟩, Identity.wellFormed_initial (some profile) g, ?_, rfl⟩
  constructor <;> exact ⟨rfl, rfl⟩

/-- A flow begins with a well-formed draft. -/
theorem Begun.wellFormed {config : Config} {draft : Draft} (h : Begun config draft) :
    draft.WellFormed := by
  cases h with
  | fresh h => exact wellFormed_of_new h
  | edited h => exact wellFormed_of_ofProfile h

/-- Whatever happens to a well-formed draft, it stays well-formed. -/
theorem Reached.wellFormed {config : Config} {start draft : Draft} {events : List Event}
    (h : Reached config start events draft) (hstart : start.WellFormed) : draft.WellFormed :=
  h.induct hstart fun _ _ _ ih hstep => ih.becomes hstep

/-- In the generated mode every reached draft has a text for the name of its credentials. -/
theorem Reached.namedIfGenerated {config : Config} {start draft : Draft} {events : List Event}
    (h : Reached config start events draft) (hstart : Begun config start) :
    draft.connection.identity.NamedIfGenerated := by
  refine h.induct (P := fun reached => reached.connection.identity.NamedIfGenerated) ?_ fun _ _ _ ih hstep =>
    ih.change hstep.identity
  obtain ⟨g, hidentity⟩ := hstart.exists_identity
  rw [hidentity]
  exact Identity.namedIfGenerated_selectMode _ _ _ _

/-- A flow starts with a well-formed draft, whether a profile was opened for it or not. -/
theorem Started.wellFormed {config : Config} {draft : Draft} {earlier : List Event}
    (h : Started config earlier draft) : draft.WellFormed :=
  h.induct (fun _ hbegun => hbegun.wellFormed) fun _ _ _ ih hstep => ih.becomes hstep

end Draft

end MqttProfile
