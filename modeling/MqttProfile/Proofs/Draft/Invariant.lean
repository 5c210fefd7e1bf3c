import MqttProfile.Proofs.Draft.Repeating

/-!
# What every draft of a flow has

Checking a draft and deriving its address rely on facts that no event may touch: which fields are open and
have to be filled in, which values a unit or a version can have, that an endpoint is known for each transport.
An edit that comes too late, of a field that was closed meanwhile, must not get through either.

* `Draft.Invariant` has these facts under names of their own;
* `Event.editsField` tells the edits of fields from all other events, and `Draft.KeepsClosed` says what they
  leave alone.
-/

namespace MqttProfile

/-! ## Fields of an identity -/

/-- The fields of an identity that hold texts. -/
inductive IdentityField where
  | credentialsName
  | clientId
  | username
  | password
deriving DecidableEq, Repr

namespace Identity

/-- A field of an identity. -/
def get (identity : Identity) : IdentityField → Field Json
  | .credentialsName => identity.credentialsName
  | .clientId => identity.clientId
  | .username => identity.username
  | .password => identity.password

theorem get_edited_of_closed {identity : Identity} {field : IdentityField}
    (hclosed : (identity.get field).enabled = false) (edited : ConnectionField) (value : Json) :
    (identity.edited edited value).get field = identity.get field := by
  cases edited <;> cases field <;> first | rfl | exact Field.editOpen_of_closed hclosed value

end Identity

/-! ## Fields of the advanced step -/

namespace AdvancedField

/-- The fields that every version has. -/
def IsPermanent (field : AdvancedField) : Prop :=
  ∀ property, field ≠ .property property

/-- The fields that have to be filled in. -/
def isMandatory : AdvancedField → Bool
  | .keepAlive | .connectTimeout | .reconnectPeriod => true
  | _ => false

/-- Whether a field can hold a value: a unit is of the kind of the field, and a version is one of the
protocol. -/
def Holds (field : AdvancedField) (value : Json) : Prop :=
  match field with
  | .keepAliveUnit | .connectTimeoutUnit | .reconnectPeriodUnit
  | .property .sessionExpiryIntervalUnit => ∃ unit : TimeUnit, value = .str unit.name
  | .property .maxPacketSizeUnit => ∃ unit : SizeUnit, value = .str unit.name
  | .protocolVersion => ∃ version : MqttVersion, value = .int version.level
  | _ => True

/-- Whether a value can be entered in a field: where a unit or a version is expected it has to be read as
one. -/
def Admits (field : AdvancedField) (value : Json) : Prop :=
  match field with
  | .keepAliveUnit | .connectTimeoutUnit | .reconnectPeriodUnit
  | .property .sessionExpiryIntervalUnit => ∃ unit, TimeUnit.ofJson value = .ok unit
  | .property .maxPacketSizeUnit => ∃ unit, SizeUnit.ofJson value = .ok unit
  | .protocolVersion => ∃ version, MqttVersion.ofJson value = .ok version
  | _ => True

end AdvancedField

namespace AdvancedStep

/-- A field of the advanced step; a unit is shown by its name and the version by its level. -/
def get (advanced : AdvancedStep) : AdvancedField → Field Json
  | .cleanStart => advanced.cleanStart
  | .keepAlive => advanced.keepAlive
  | .keepAliveUnit => Version5Properties.view (.str ·.name) advanced.keepAliveUnit
  | .connectTimeout => advanced.connectTimeout
  | .connectTimeoutUnit => Version5Properties.view (.str ·.name) advanced.connectTimeoutUnit
  | .reconnectPeriod => advanced.reconnectPeriod
  | .reconnectPeriodUnit => Version5Properties.view (.str ·.name) advanced.reconnectPeriodUnit
  | .protocolVersion => Version5Properties.view (.int ·.level) advanced.protocolVersion
  | .property property => advanced.properties.get property

/-- What is in a field is one of the values that it can hold: the types of units and versions see to it. -/
theorem holds_get (advanced : AdvancedStep) (field : AdvancedField) :
    field.Holds (advanced.get field).value := by
  cases field with
  | cleanStart | keepAlive | connectTimeout | reconnectPeriod => trivial
  | keepAliveUnit => exact ⟨advanced.keepAliveUnit.value, rfl⟩
  | connectTimeoutUnit => exact ⟨advanced.connectTimeoutUnit.value, rfl⟩
  | reconnectPeriodUnit => exact ⟨advanced.reconnectPeriodUnit.value, rfl⟩
  | protocolVersion => exact ⟨advanced.protocolVersion.value, rfl⟩
  | property property =>
    cases property with
    | sessionExpiryIntervalUnit => exact ⟨advanced.properties.sessionExpiryIntervalUnit.value, rfl⟩
    | maxPacketSizeUnit => exact ⟨advanced.properties.maxPacketSizeUnit.value, rfl⟩
    | sessionExpiryInterval | maxPacketSize | topicAliasMax | receiveMax | requestResponseInfo => trivial

/-- The fields that every version has are open, and have to be filled in or not once and for all. -/
theorem WellFormed.flags {advanced : AdvancedStep} (h : advanced.WellFormed) {field : AdvancedField}
    (hpermanent : field.IsPermanent) :
    (advanced.get field).enabled = true ∧ (advanced.get field).required = field.isMandatory := by
  cases field with
  | cleanStart => exact h.cleanStart
  | keepAlive => exact h.keepAlive
  | keepAliveUnit => exact h.keepAliveUnit
  | connectTimeout => exact h.connectTimeout
  | connectTimeoutUnit => exact h.connectTimeoutUnit
  | reconnectPeriod => exact h.reconnectPeriod
  | reconnectPeriodUnit => exact h.reconnectPeriodUnit
  | protocolVersion => exact h.protocolVersion
  | property property => exact absurd rfl (hpermanent property)

end AdvancedStep

/-! ## Edits of fields -/

/-- Whether an event is an edit of a field in a step of the form. -/
def Event.editsField : Event → Bool
  | .editConnection _ _ | .editAdvanced _ _ | .editLastWill _ | .editUserProperties _
  | .editNowhere _ => true
  | _ => false

/-- An edit of a field leaves the closed fields of an identity as they are. -/
theorem Identity.Change.get_of_closed {editing : Option Profile} {identity next : Identity} {event : Event}
    (h : Change editing identity event next) (hedits : event.editsField = true) {field : IdentityField}
    (hclosed : (identity.get field).enabled = false) : next.get field = identity.get field := by
  cases h with
  | select _ _ | detach _ | attach _ _ | regenerate _ _ _ => cases hedits
  | @edit _ value edited _ => exact get_edited_of_closed hclosed edited value
  | keep _ => rfl

namespace Draft

/-- One draft has the closed fields of the identity as another, and holds the same for the closed properties
of version 5. -/
structure KeepsClosed (draft after : Draft) : Prop where
  identity : ∀ field, (draft.connection.identity.get field).enabled = false →
    after.connection.identity.get field = draft.connection.identity.get field
  properties : ∀ property, (draft.advanced.properties.get property).enabled = false →
    after.propertyValue property = draft.propertyValue property

/-- An edit of a field that is tried, whether it succeeds or fails, keeps what is closed. -/
theorem keepsClosed_attempt {config : Config} {draft : Draft} {event : Event}
    (hgated : draft.advanced.Gated) (hedits : event.editsField = true) (g : Generator) :
    KeepsClosed draft (draft.attempt config event g).1 := by
  cases happly : (draft.apply config event g).1 with
  | error error =>
    rw [attempt_of_error happly]
    exact ⟨fun _ _ => rfl, fun _ _ => rfl⟩
  | ok next =>
    have hstep := becomes_of_apply happly
    rw [attempt_of_ok happly]
    refine ⟨fun field hclosed => hstep.identity.get_of_closed hedits hclosed, fun property hclosed => ?_⟩
    -- a closed property belongs to a draft of another version, in which no entry counts
    have hversion : draft.advanced.mqttVersion ≠ .v5 := fun hv5 =>
      Bool.false_ne_true (hclosed.symm.trans ((hgated property).mpr hv5))
    rw [(hstep.keepsGate hgated).value property, taken?, if_neg hversion, Option.getD_none]

/-- A unit of time that is entered is read as one. -/
theorem ofJson_of_enteredUnit {field : AdvancedField} {value : Json} {unit : TimeUnit}
    (h : enteredUnit field value = .ok unit) : TimeUnit.ofJson value = .ok unit := by
  rw [enteredUnit] at h
  cases hread : TimeUnit.ofJson value with
  | error _ =>
    rw [hread] at h
    cases h
  | ok read =>
    rw [hread] at h
    cases h
    rfl

/-- An edit of the advanced step that succeeds enters a value that its field admits. -/
theorem admits_of_edit {draft next : Draft} {field : AdvancedField} {value : Json}
    (h : draft.editAdvancedField field value = .ok next) : field.Admits value := by
  cases field with
  | cleanStart | keepAlive | connectTimeout | reconnectPeriod => trivial
  | keepAliveUnit | connectTimeoutUnit | reconnectPeriodUnit =>
    obtain ⟨unit, hunit, -⟩ := exists_of_map_eq_ok h
    exact ⟨unit, ofJson_of_enteredUnit hunit⟩
  | protocolVersion =>
    obtain ⟨version, hversion, -⟩ := changeVersion_ok h
    exact ⟨version, hversion⟩
  | property property =>
    obtain ⟨properties, hedit, -⟩ := exists_of_map_eq_ok h
    cases property with
    | sessionExpiryInterval | maxPacketSize | topicAliasMax | receiveMax | requestResponseInfo => trivial
    | sessionExpiryIntervalUnit | maxPacketSizeUnit =>
      obtain ⟨unit, hunit, -⟩ := exists_of_map_eq_ok hedit
      exact ⟨unit, Version5Properties.eq_ok_of_enteredUnit hunit⟩

/-! ## The invariant -/

/-- What every draft of a flow has, whatever happened since its start. -/
structure Invariant (config : Config) (start draft : Draft) : Prop where
  editing : draft.editing = start.editing
  pageIsSecure : draft.pageIsSecure = start.pageIsSecure
  urlWarning : draft.urlWarning = true
    ↔ draft.connection.transport = .plain ∧ draft.pageIsSecure = true
  name : draft.connection.name.IsMandatory
  url : draft.connection.url.IsMandatory
  /-- The name of the credentials and the client identifier have to be filled in, the user name not. -/
  identity : draft.connection.identity.WellFormed
  /-- The fields that every version has keep their flags. -/
  flags : ∀ field : AdvancedField, field.IsPermanent →
    (draft.advanced.get field).enabled = (start.advanced.get field).enabled
      ∧ (draft.advanced.get field).required = (start.advanced.get field).required
  /-- Units are of the kind of their field, and the version is one of the protocol. -/
  holds : ∀ field : AdvancedField, field.Holds (draft.advanced.get field).value
  /-- An endpoint is known for each transport. -/
  endpoints : ∀ transport, ∃ endpoint,
    KnownEndpoints.ofEndpoints draft.endpoints transport = some endpoint

/-- Every draft that is reached in a flow has the invariant. -/
theorem Reached.invariant {config : Config} {start draft : Draft} {earlier events : List Event}
    (hreached : Reached config start events draft) (hstart : Started config earlier start) :
    Invariant config start draft := by
  have hwellFormed := hreached.wellFormed hstart.wellFormed
  constructor
  · exact hreached.editing_eq
  · exact hreached.induct (P := fun reached => reached.pageIsSecure = start.pageIsSecure) rfl
      fun _ _ _ ih hstep => hstep.origin_eq.2.trans ih
  · rw [hwellFormed.urlWarning]
    cases draft.connection.transport <;> cases draft.pageIsSecure <;> decide
  · exact hwellFormed.name
  · exact hwellFormed.url
  · exact hwellFormed.identity
  · intro field hpermanent
    obtain ⟨henabled, hrequired⟩ := hwellFormed.advanced.flags hpermanent
    obtain ⟨henabled', hrequired'⟩ := hstart.wellFormed.advanced.flags hpermanent
    exact ⟨henabled.trans henabled'.symm, hrequired.trans hrequired'.symm⟩
  · exact draft.advanced.holds_get
  · exact fun transport => ⟨_, rfl⟩

/-- Every draft that is reached in a flow has the invariant.  An edit of a field that is tried on it never
changes a field of the identity or a property of version 5 that is closed, and what is no unit or version is
refused where one is expected. -/
theorem invariant_of_flow (config : Config) (start draft : Draft) (earlier events : List Event)
    (hstart : Started config earlier start) (hreached : Reached config start events draft) :
    Invariant config start draft
      ∧ (∀ event g, event.editsField = true → KeepsClosed draft (draft.attempt config event g).1)
      ∧ ∀ (field : AdvancedField) value g next,
        (draft.apply config (.editAdvanced (.str field.name) value) g).1 = .ok next →
          field.Admits value := by
  refine ⟨hreached.invariant hstart, fun event g hedits => ?_, fun field value g next happly => ?_⟩
  · exact keepsClosed_attempt (hreached.gated hstart.gated) hedits g
  · rw [apply, editAdvanced, AdvancedField.ofJson_name] at happly
    exact admits_of_edit happly

/-- In a draft of an older version that was opened on a secured page, the warning is on, the generated client
identifier is closed to edits, and so is the largest number of messages in flight. -/
theorem older_draft_keeps_closed :
    let g : Generator := .ofStep 0 7
    let start := firstSecured g
    let named := Event.editConnection (.str "client_id") (.str "dev")
    let limited := Event.editAdvanced (.str "receive_max") (.int 10)
    ∃ draft, Reached Config.standard start [.changeVersion (.int 4)] draft
      ∧ draft.urlWarning = true
      ∧ (draft.attempt Config.standard named g).1.connection.identity.clientId
        = draft.connection.identity.clientId
      ∧ (draft.attempt Config.standard limited g).1.propertyValue .receiveMax = .int 65535 := by
  intro g start named limited
  have hstart : Started Config.standard [] start := .begun (.fresh (new_secured g))
  have hreached : Reached Config.standard start [.changeVersion (.int 4)] (start.withVersion .v311) :=
    Reached.refl.step (g := g) rfl
  obtain ⟨hinvariant, hkeeps, -⟩ := invariant_of_flow Config.standard start _ [] _ hstart hreached
  exact ⟨_, hreached, hinvariant.urlWarning.mpr ⟨rfl, rfl⟩,
    (hkeeps named g rfl).identity .clientId (by decide +kernel),
    (hkeeps limited g rfl).properties .receiveMax (by decide +kernel)⟩

end Draft

end MqttProfile
