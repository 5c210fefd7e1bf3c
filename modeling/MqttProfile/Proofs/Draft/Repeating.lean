import MqttProfile.Proofs.Draft.Address
import MqttProfile.Proofs.Draft.Commuting
import MqttProfile.Proofs.Draft.Modes
import MqttProfile.Proofs.Draft.VersionGate

/-!
# Events that are repeated

A form may report a change more often than there was one, so an event that sets what follows from other
parts of a draft should lead from its own result to the same result again.  All events that draw nothing do
so, and showing a reached draft changes nothing in the first place.  Changing the credential is the one
event that may draw and should be repeatable all the same: it is as long as it draws nothing.  Where neither
the credential nor the edited profile names a client, the repeated event draws another identifier.

* `Becomes.again` says that a step without drawing leads on from its own result, event by event;
* `settled_eq_self` says that in a draft that keeps its invariants nothing is left to settle;
* `filled` is what attaching a credential makes of an identity once the client identifier is known, so that
  two attachments in a row differ in what they draw and in nothing else.
-/

namespace MqttProfile

/-! ## Fields -/

namespace Field

@[simp]
theorem editOpen_editOpen (field : Field Json) (value : Json) :
    Draft.editOpen (Draft.editOpen field value) value = Draft.editOpen field value := by
  cases hopen : field.enabled with
  | true => simp only [Draft.editOpen, hopen, if_true, set]
  | false => rw [editOpen_of_closed hopen, editOpen_of_closed hopen]

end Field

namespace Version5Properties

@[simp]
theorem editField_editField {α : Type} (field : Field α) (value : α) :
    editField (editField field value) value = editField field value := by
  cases hopen : field.enabled with
  | true => simp only [editField, hopen, if_true, Field.set]
  | false => simp only [editField, hopen, if_neg Bool.false_ne_true]

@[simp]
theorem gate_gate (p : Version5Properties) (level : Int) : (p.gate level).gate level = p.gate level := by
  rw [gate, gate]
  cases supportsVersion5 level <;> rfl

/-- An edit that succeeds leads on from its own result. -/
theorem edit_again {p next : Version5Properties} {property : Version5Property} {value : Json}
    (h : p.edit property value = .ok next) : next.edit property value = .ok next := by
  cases property with
  | sessionExpiryInterval | maxPacketSize | topicAliasMax | receiveMax | requestResponseInfo =>
    cases h
    simp only [edit, editField_editField]
  | sessionExpiryIntervalUnit | maxPacketSizeUnit =>
    obtain ⟨unit, hunit, rfl⟩ := exists_of_map_eq_ok h
    simp only [edit, eq_ok_of_enteredUnit hunit, Except.map, editField_editField]

theorem view_injective {α : Type} {toJson : α → Json} (h : Function.Injective toJson) {field other : Field α}
    (heq : view toJson field = view toJson other) : field = other := by
  cases field
  cases other
  rw [view, view, Field.mk.injEq] at heq
  obtain ⟨hvalue, henabled, hrequired⟩ := heq
  exact Field.mk.injEq .. ▸ ⟨h hvalue, henabled, hrequired⟩

/-- Properties with the same fields are the same. -/
theorem eq_of_get_eq {p q : Version5Properties} (h : ∀ property, p.get property = q.get property) :
    p = q := by
  have htime : Function.Injective fun unit : TimeUnit => Json.str unit.name := by
    intro unit other
    cases unit <;> cases other <;> decide
  have hsize : Function.Injective fun unit : SizeUnit => Json.str unit.name := by
    intro unit other
    cases unit <;> cases other <;> decide
  cases p
  cases q
  rw [Version5Properties.mk.injEq]
  exact ⟨h .sessionExpiryInterval, view_injective htime (h .sessionExpiryIntervalUnit), h .maxPacketSize,
    view_injective hsize (h .maxPacketSizeUnit), h .topicAliasMax, h .receiveMax, h .requestResponseInfo⟩

/-- A gate that is set as the version demands stays as it is. -/
theorem gate_of_gated {p : Version5Properties} {version : MqttVersion}
    (h : ∀ property, (p.get property).enabled = true ↔ version = .v5) : p.gate version.level = p := by
  refine eq_of_get_eq fun property => ?_
  have hflag : (p.get property).enabled = supportsVersion5 version.level := by
    rw [Bool.eq_iff_iff, h property, supportsVersion5_level]
  rw [get_gate, ← hflag]

end Version5Properties

@[simp]
theorem Endpoints.merge_merge (endpoints : Endpoints) (settings : Option ConnectivitySettings) :
    (endpoints.merge settings).merge settings = endpoints.merge settings := by
  cases settings with
  | none => rfl
  | some settings =>
    simp only [merge]
    cases settings.endpoint? .plain <;> cases settings.endpoint? .secure <;> rfl

namespace Draft

/-! ## Events that draw nothing -/

@[simp]
theorem settled_settled (draft : Draft) : draft.settled.settled = draft.settled := by
  simp only [settled, warned, AdvancedStep.gated, AdvancedStep.mqttVersion, Version5Properties.gate_gate]

/-- In a draft that keeps its invariants nothing is left to settle. -/
theorem settled_eq_self {draft : Draft} (hwellFormed : draft.WellFormed) (hgated : draft.advanced.Gated) :
    draft.settled = draft := by
  have hadvanced : draft.advanced.gated = draft.advanced := by
    rw [AdvancedStep.gated, Version5Properties.gate_of_gated hgated]
  rw [settled, hadvanced, warned, ← hwellFormed.urlWarning]

@[simp]
theorem withVersion_withVersion (draft : Draft) (version : MqttVersion) :
    (draft.withVersion version).withVersion version = draft.withVersion version := by
  simp only [withVersion, Version5Properties.gate_gate, Field.set]

@[simp]
theorem transported_transported (config : Config) (draft : Draft) (transport : Transport) :
    (draft.transported config transport).transported config transport
      = draft.transported config transport := by
  cases transport <;> rfl

/-- Loading settings twice loads them. -/
@[simp]
theorem loaded_loaded (config : Config) (draft : Draft) (settings : Option ConnectivitySettings) :
    (draft.loaded config settings).loaded config settings = draft.loaded config settings := by
  cases hreloads : draft.reloadsUrl config with
  | true =>
    have hafter : (draft.loaded config settings).reloadsUrl config = true := by
      rw [loaded, if_pos hreloads]
      exact hreloads
    rw [loaded, if_pos hafter, loaded, if_pos hreloads]
    simp only [withUrl, Endpoints.merge_merge, Field.set]
  | false =>
    have hafter : (draft.loaded config settings).reloadsUrl config = false := by
      rw [loaded, hreloads, if_neg Bool.false_ne_true]
      exact hreloads
    rw [loaded, hafter, loaded, hreloads]
    simp only [if_neg Bool.false_ne_true, Endpoints.merge_merge]

/-- Settings that can be loaded can be loaded again. -/
theorem loadable_loaded {config : Config} {draft : Draft} {settings : Option ConnectivitySettings}
    (h : draft.loadable config settings = true) :
    (draft.loaded config settings).loadable config settings = true := by
  have hsame : (draft.loaded config settings).loadable config settings = draft.loadable config settings := by
    rw [loaded]
    split
    · exact congrArg (fun endpoints => !draft.reloadsUrl config
        || derivable draft.connection.transport endpoints) (draft.endpoints.merge_merge settings)
    · exact congrArg (fun endpoints => !draft.reloadsUrl config
        || derivable draft.connection.transport endpoints) (draft.endpoints.merge_merge settings)
  rw [hsame, h]

@[simp]
theorem editConnectionField_editConnectionField (draft : Draft) (field : ConnectionField) (value : Json) :
    (draft.editConnectionField field value).editConnectionField field value
      = draft.editConnectionField field value := by
  cases field with
  | name | rejectUnauthorized => rfl
  | credentialsName | clientId | username | password =>
    simp only [editConnectionField, withIdentity, Field.editOpen_editOpen]

/-- An edit of the advanced step that succeeds leads on from its own result. -/
theorem editAdvancedField_again {draft next : Draft} {field : AdvancedField} {value : Json}
    (h : draft.editAdvancedField field value = .ok next) : next.editAdvancedField field value = .ok next := by
  cases field with
  | cleanStart | keepAlive | connectTimeout | reconnectPeriod =>
    cases h
    rfl
  | keepAliveUnit | connectTimeoutUnit | reconnectPeriodUnit =>
    obtain ⟨unit, hunit, rfl⟩ := exists_of_map_eq_ok h
    simp only [editAdvancedField, hunit]
    rfl
  | protocolVersion =>
    obtain ⟨version, hversion, rfl⟩ := changeVersion_ok h
    rw [editAdvancedField, changeVersion, hversion]
    exact congrArg Except.ok (withVersion_withVersion draft version)
  | property property =>
    obtain ⟨properties, hproperties, rfl⟩ := exists_of_map_eq_ok h
    simp only [editAdvancedField, Version5Properties.edit_again hproperties]
    rfl

/-- A step that may not draw leads on from its own result, whatever the generator is. -/
theorem Becomes.again {config : Config} {draft next : Draft} {event : Event}
    (h : Becomes config draft event next) (hdraws : event.mayDraw = false) (g : Generator) :
    (next.apply config event g).1 = .ok next := by
  -- what was read of a value is read of it again, so each case is left with what is then done
  cases h with
  | selectMode _ _ | detach _ | attach _ _ | regenerate _ _ _ => cases hdraws
  | initialise => exact congrArg Except.ok (settled_settled draft)
  | @changeVersion value version hversion =>
    show (draft.withVersion version).changeVersion value = _
    rw [Draft.changeVersion, hversion]
    exact congrArg Except.ok (withVersion_withVersion draft version)
  | @selectTransport value transport htransport hport =>
    show ((draft.transported config transport).apply config (.selectTransport value) g).1 = _
    rw [apply_selectTransport config _ g htransport, transported_transported]
    exact if_pos hport
  | loadSettings hport =>
    rw [apply, loadSettings_eq_ite, if_pos (loadable_loaded hport), loaded_loaded]
  | editUrl url => rfl
  | editUrlField url => rfl
  | @editConnection name value field hfield =>
    have hother : name ≠ .str "url" := by
      rintro rfl
      cases hfield
    simp only [apply, Draft.editConnection, if_neg hother, hfield, editConnectionField_editConnectionField]
  | editAdvanced hfield hedit =>
    simp only [apply, Draft.editAdvanced, hfield]
    exact editAdvancedField_again hedit
  | editLastWill lastWill => rfl
  | editUserProperties hread =>
    simp only [apply, Draft.editUserProperties, hread]
    rfl

/-- Trying an event twice in a row comes to the same as trying it once, for the draft and for how the event
fails. -/
def Repeats (config : Config) (event : Event) (draft : Draft) (g : Generator) : Prop :=
  let once := draft.attempt config event g
  (once.1.apply config event once.2).1 = (draft.apply config event g).1

/-- An event that may not draw repeats, and what fails once fails again, for it leaves the draft as it was. -/
theorem repeats_of_not_draws {config : Config} {event : Event} (hdraws : event.mayDraw = false) (draft : Draft)
    (g : Generator) : Repeats config event draft g := by
  rw [Repeats, apply_of_not_draws hdraws _ _ g]
  cases happly : (draft.apply config event g).1 with
  | ok next =>
    rw [attempt_of_ok happly]
    exact (becomes_of_apply happly).again hdraws g
  | error error =>
    rw [attempt_of_error happly]
    exact happly

/-- Every reached draft has its gate set as its version demands. -/
theorem Reached.gated {config : Config} {start draft : Draft} {events : List Event}
    (h : Reached config start events draft) (hstart : start.advanced.Gated) : draft.advanced.Gated :=
  h.induct hstart fun _ _ _ ih hstep => (hstep.keepsGate ih).gated

/-- A flow starts with its gate set, whether a profile was opened for it or not. -/
theorem Started.gated {config : Config} {draft : Draft} {earlier : List Event}
    (h : Started config earlier draft) : draft.advanced.Gated :=
  h.induct (P := fun started => started.advanced.Gated) (fun _ hbegun => hbegun.gated.1)
    fun _ _ _ ih hstep => (hstep.keepsGate ih).gated

/-- On every reached draft an event that may not draw comes to the same when it is repeated, whether it
succeeds or fails, and leaves the generator alone.  Showing the draft leaves it exactly as it is. -/
theorem drawless_event_repeats (config : Config) (start draft : Draft) (earlier events : List Event)
    (hstart : Started config earlier start) (hreached : Reached config start events draft) :
    (∀ event g, event.mayDraw = false →
        Repeats config event draft g ∧ (draft.apply config event g).2 = g)
      ∧ ∀ g, draft.apply config .initialise g = (.ok draft, g) := by
  constructor
  · intro event g hdraws
    refine ⟨repeats_of_not_draws hdraws draft g, ?_⟩
    rw [apply_of_not_draws hdraws draft g g]
  · intro g
    rw [apply, settled_eq_self (hreached.wellFormed hstart.wellFormed) (hreached.gated hstart.gated)]

/-- Settings that were loaded are loaded again without effect, also in a draft of an older version. -/
theorem broker_load_repeats :
    ∃ draft, Reached Config.standard (first (.ofStep 0 7)) [.changeVersion (.int 4)] draft
      ∧ Repeats Config.standard (.loadSettings (some brokerSettings)) draft (.ofStep 0 7)
      ∧ draft.apply Config.standard .initialise (.ofStep 0 7) = (.ok draft, .ofStep 0 7) := by
  let g : Generator := .ofStep 0 7
  have holder : Reached Config.standard (first g) [.changeVersion (.int 4)] _ := Reached.refl.step (g := g) rfl
  obtain ⟨hrepeats, hshown⟩ := drawless_event_repeats Config.standard (first g) _ [] _
    (.begun (begun_first g)) holder
  exact ⟨_, holder, (hrepeats (.loadSettings (some brokerSettings)) g rfl).1, hshown g⟩

end Draft

/-! ## Changes of the credential -/

namespace Identity

def withClientId (identity : Identity) (clientId : Json) : Identity :=
  { identity with clientId := identity.clientId.set clientId }

/-- The identity that a credential fills in, with the client identifier that is found for it. -/
def filled (identity : Identity) (credential : LinkedCredential) (clientId : Json) : Identity :=
  demandPassword
    { identity with
      clientId := if credential.clientId.truthy then (identity.clientId.set clientId).lock
        else (identity.clientId.set clientId).unlock
      username := identity.username.set credential.userName
      password := identity.password.set .null
      reference := identity.reference.set (some credential) }

/-- The client identifier that is known when a credential is attached: its own, or else that of the edited
profile. -/
def knownClientId (credential : LinkedCredential) (editing : Option Profile) : Json :=
  credential.clientId.orElse (storedClientId editing)

/-- Attaching a credential fills the identity in with the known client identifier or a generated one. -/
theorem attach_some (identity : Identity) (credential : LinkedCredential) (editing : Option Profile)
    (g : Generator) :
    identity.attach (some credential) editing g
      = (identity.filled credential (clientIdOrDrawn (knownClientId credential editing) g).1,
          (clientIdOrDrawn (knownClientId credential editing) g).2) :=
  rfl

/-- What was filled in by a credential is filled in by it again, whatever the client identifier was. -/
theorem filled_filled (identity : Identity) (credential : LinkedCredential) (earlier clientId : Json) :
    (identity.filled credential earlier).filled credential clientId = identity.filled credential clientId := by
  rw [filled, filled, filled]
  cases credential.clientId.truthy <;> rfl

theorem clientId_filled (identity : Identity) (credential : LinkedCredential) (clientId : Json) :
    (identity.filled credential clientId).clientId.value = clientId := by
  rw [filled]
  cases credential.clientId.truthy <;> rfl

theorem withClientId_filled (identity : Identity) (credential : LinkedCredential) (found clientId : Json) :
    (identity.filled credential found).withClientId clientId = identity.filled credential clientId := by
  rw [filled, filled]
  cases credential.clientId.truthy <;> rfl

/-- No client identifier is known exactly if neither the credential nor the edited profile has one. -/
theorem knownClientId_truthy_iff (credential : LinkedCredential) (editing : Option Profile) :
    (knownClientId credential editing).truthy = false
      ↔ credential.clientId = .null ∧ storedClientId editing = .null := by
  have hstored : storedClientId editing = .null ↔ (storedClientId editing).truthy = false := by
    cases editing with
    | none => exact iff_of_true rfl rfl
    | some profile => exact Json.orNull_eq_null_iff _
  rw [credential.clientId_eq_null_iff, hstored, knownClientId, Json.truthy_orElse, Bool.or_eq_false_iff]

/-- A client identifier that is known is taken as it is. -/
theorem clientIdOrDrawn_of_truthy {known : Json} (h : known.truthy = true) (g : Generator) :
    clientIdOrDrawn known g = (known, g) := by
  rw [clientIdOrDrawn, if_pos h]

/-- Where none is known one is generated. -/
theorem clientIdOrDrawn_of_not_truthy {known : Json} (h : known.truthy = false) (g : Generator) :
    clientIdOrDrawn known g = (.str g.clientId.1, g.clientId.2) := by
  rw [clientIdOrDrawn, if_neg (by rw [h]; exact Bool.false_ne_true)]

/-- The client identifier that is found next is the same, unless one is generated anew. -/
theorem clientIdOrDrawn_again_iff (known : Json) (g : Generator) :
    (clientIdOrDrawn known (clientIdOrDrawn known g).2).1 = (clientIdOrDrawn known g).1
      ↔ (known.truthy = false → g.clientId.2.clientId.1 = g.clientId.1) := by
  cases hknown : known.truthy with
  | true =>
    rw [clientIdOrDrawn_of_truthy hknown, clientIdOrDrawn_of_truthy hknown]
    exact iff_of_true rfl fun hno => (nomatch hno)
  | false =>
    rw [clientIdOrDrawn_of_not_truthy hknown, clientIdOrDrawn_of_not_truthy hknown, Json.str.injEq]
    exact ⟨fun hsame _ => hsame, fun hsame => hsame rfl⟩

end Identity

namespace Draft

open Identity

def withClientId (draft : Draft) (clientId : Json) : Draft :=
  draft.withIdentity (draft.connection.identity.withClientId clientId)

/-- The draft with its identity filled in by a credential. -/
def filled (draft : Draft) (credential : LinkedCredential) (clientId : Json) : Draft :=
  draft.withIdentity (draft.connection.identity.filled credential clientId)

theorem filled_again (draft : Draft) (credential : LinkedCredential) (earlier clientId : Json) :
    (draft.filled credential earlier).filled credential clientId = draft.filled credential clientId :=
  congrArg draft.withIdentity (filled_filled draft.connection.identity credential earlier clientId)

/-- Drafts that were filled in alike have the same client identifier. -/
theorem filled_inj (draft : Draft) (credential : LinkedCredential) (clientId other : Json) :
    draft.filled credential clientId = draft.filled credential other ↔ clientId = other := by
  constructor
  · intro hsame
    have hvalue := congrArg (fun d : Draft => d.connection.identity.clientId.value) hsame
    rw [← clientId_filled draft.connection.identity credential clientId,
      ← clientId_filled draft.connection.identity credential other]
    exact hvalue
  · intro hsame
    rw [hsame]

theorem filled_withClientId (draft : Draft) (credential : LinkedCredential) (found clientId : Json) :
    (draft.filled credential found).withClientId clientId = draft.filled credential clientId :=
  congrArg draft.withIdentity (withClientId_filled draft.connection.identity credential found clientId)

theorem apply_changeReference_of_link (config : Config) (draft : Draft) {reference : CredentialReference}
    {credential : LinkedCredential} (hlink : reference.link = .ok credential) (g : Generator) :
    draft.apply config (.changeReference (some reference)) g
      = (.ok (draft.filled credential (clientIdOrDrawn (knownClientId credential draft.editing) g).1),
          (clientIdOrDrawn (knownClientId credential draft.editing) g).2) := by
  simp only [apply, changeReference, hlink, attach, attach_some, filled]

/-- The second time a credential is filled in over what it was filled in before. -/
theorem apply_changeReference_twice (config : Config) (draft : Draft) {reference : CredentialReference}
    {credential : LinkedCredential} (hlink : reference.link = .ok credential) (g : Generator) :
    let event := Event.changeReference (some reference)
    let once := draft.attempt config event g
    let known := knownClientId credential draft.editing
    (once.1.apply config event once.2).1
      = .ok (draft.filled credential (clientIdOrDrawn known (clientIdOrDrawn known g).2).1) := by
  intro event once known
  have honce : once = (draft.filled credential (clientIdOrDrawn known g).1, (clientIdOrDrawn known g).2) := by
    simp only [once, event, attempt, apply_changeReference_of_link config draft hlink, known]
  rw [honce, apply_changeReference_of_link config _ hlink, filled_again]
  rfl

/-- Whether changing the credential generates a client identifier: the credential can be read, and neither
it nor the edited profile has one. -/
def DrawsClientId (draft : Draft) (reference? : Option CredentialReference) : Prop :=
  ∃ reference credential, reference? = some reference ∧ reference.link = .ok credential
    ∧ credential.clientId = .null ∧ storedClientId draft.editing = .null

/-- For a credential that can be read, a client identifier is generated exactly if none is known. -/
theorem drawsClientId_iff (draft : Draft) {reference : CredentialReference} {credential : LinkedCredential}
    (hlink : reference.link = .ok credential) :
    draft.DrawsClientId (some reference) ↔ (knownClientId credential draft.editing).truthy = false := by
  rw [knownClientId_truthy_iff]
  constructor
  · rintro ⟨_, other, ⟨⟩, hother, hnull⟩
    rw [hlink] at hother
    cases hother
    exact hnull
  · intro hnull
    exact ⟨reference, credential, rfl, hlink, hnull⟩

theorem not_drawsClientId_of_link_error (draft : Draft) {reference : CredentialReference} {fault : Fault}
    (hlink : reference.link = .error fault) : ¬ draft.DrawsClientId (some reference) := by
  rintro ⟨_, _, ⟨⟩, hreadable, -⟩
  rw [hlink] at hreadable
  cases hreadable

/-- Changing the credential repeats exactly as long as it generates no client identifier, or the same one
twice.  Apart from the client identifier it repeats in any case, also where the credential cannot be read. -/
theorem reference_change_repeats_iff (config : Config) (draft : Draft)
    (reference? : Option CredentialReference) (g : Generator) :
    let event := Event.changeReference reference?
    let once := draft.attempt config event g
    (Repeats config event draft g
        ↔ (draft.DrawsClientId reference? → g.clientId.2.clientId.1 = g.clientId.1))
      ∧ (once.1.apply config event once.2).1.map (·.withClientId .null)
        = (draft.apply config event g).1.map (·.withClientId .null) := by
  intro event once
  cases reference? with
  | none =>
    have hno : ¬ draft.DrawsClientId none := by
      rintro ⟨_, _, ⟨⟩, -⟩
    exact ⟨iff_of_true rfl fun hdraws => absurd hdraws hno, rfl⟩
  | some reference =>
    cases hlink : reference.link with
    | error fault =>
      have hfails : draft.apply config event g = (.error (.fault fault), g) := by
        simp only [event, apply, changeReference, hlink]
      have hrepeats : Repeats config event draft g := by
        simp only [Repeats, attempt, hfails]
      have hno := not_drawsClientId_of_link_error draft hlink
      exact ⟨iff_of_true hrepeats fun hdraws => absurd hdraws hno, congrArg _ hrepeats⟩
    | ok credential =>
      have hfirst : (draft.apply config event g).1
          = .ok (draft.filled credential (clientIdOrDrawn (knownClientId credential draft.editing) g).1) :=
        congrArg Prod.fst (apply_changeReference_of_link config draft hlink g)
      have hsecond := apply_changeReference_twice config draft hlink g
      constructor
      · show (once.1.apply config event once.2).1 = _ ↔ _
        rw [hsecond, hfirst, Except.ok.injEq, filled_inj, clientIdOrDrawn_again_iff,
          drawsClientId_iff draft hlink]
      · rw [hsecond, hfirst]
        simp only [Except.map, filled_withClientId]

/-- A credential that names no client is attached with another client identifier each time. -/
theorem gateway_client_redrawn :
    let fresh := first (.ofStep 0 7)
    let g := (Draft.new Config.standard false 0 (.ofStep 0 7)).2
    let selected := fresh.attempt Config.standard (.selectMode (.str "EXISTING")) g
    let event := Event.changeReference (some gateway.record)
    let once := selected.1.attempt Config.standard event selected.2
    let twice := once.1.attempt Config.standard event once.2
    Draft.new Config.standard false 0 (.ofStep 0 7) = (.ok fresh, g)
      ∧ Reached Config.standard fresh [.selectMode (.str "EXISTING")] selected.1
      ∧ ¬ Repeats Config.standard event selected.1 selected.2
      ∧ once.1.connection.identity.clientId.value = .str "tbmq_U18fmtAH"
      ∧ twice.1.connection.identity.clientId.value = .str "tbmq_OV29gnuB" := by
  refine ⟨Prod.ext (new_standard _) rfl, Reached.refl.step (g := .ofStep 0 7) rfl, ?_, ?_, ?_⟩
  · unfold Repeats
    decide +kernel
  · decide +kernel
  · decide +kernel

end Draft

end MqttProfile
