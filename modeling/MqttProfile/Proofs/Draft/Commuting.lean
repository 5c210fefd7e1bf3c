import Mathlib.Tactic.MkIffOfInductiveProp
import MqttProfile.Proofs.Draft.Reached

/-!
# Events that commute

A draft has parts that are edited apart from each other, and every event that edits one concerns one part
only: it reads no other part and writes no other part.  Only events that concern the identity draw from the
generator.  So two events that concern different parts can be tried in either order.

* `Event.part?` says which part an event concerns;
* `apply_withPart` says that an event reads its own part only, and `Becomes.eq_withPart` that it writes no
  other; both are shown event by event;
* `commute_selectTransport_loadSettings_iff` is about the two events on the address that derive it: where loads
  of settings derive it too, they commute unless a port gets in the way of one of them in one order only;
* `events_commute` puts all of this together.
-/

namespace MqttProfile

/-! ## Parts -/

/-- The parts of a draft. -/
inductive Part where
  | identity
  | address
  | name
  | advanced
  | lastWill
  | userProperties
deriving DecidableEq

/-- The part that a field of the connection step belongs to. -/
def ConnectionField.part : ConnectionField → Part
  | .name => .name
  | .rejectUnauthorized => .address
  | .credentialsName | .clientId | .username | .password => .identity

/-- Whether an event may draw from the generator. -/
def Event.mayDraw : Event → Bool
  | .selectMode _ | .changeReference _ | .regenerate _ => true
  | .initialise | .changeVersion _ | .selectTransport _ | .loadSettings _ | .editUrl _
  | .editConnection _ _ | .editAdvanced _ _ | .editLastWill _ | .editUserProperties _ | .editNowhere _ =>
    false

/-- The part that an event concerns.  Showing a draft concerns none, nor does an edit of what is no field. -/
def Event.part? : Event → Option Part
  | .selectMode _ | .changeReference _ | .regenerate _ => some .identity
  | .selectTransport _ | .loadSettings _ | .editUrl _ => some .address
  | .editConnection name _ =>
    if name = .str "url" then some .address else (ConnectionField.ofJson? name).map (·.part)
  | .changeVersion _ | .editAdvanced _ _ => some .advanced
  | .editLastWill _ => some .lastWill
  | .editUserProperties _ => some .userProperties
  | .initialise | .editNowhere _ => none

namespace Draft

/-- The draft with one part of another draft. -/
def withPart (draft : Draft) (part : Part) (source : Draft) : Draft :=
  match part with
  | .identity => draft.withIdentity source.connection.identity
  | .address =>
    { draft with
      connection := { draft.connection with
        url := source.connection.url
        rejectUnauthorized := source.connection.rejectUnauthorized
        transport := source.connection.transport }
      endpoints := source.endpoints
      urlWarning := source.urlWarning }
  | .name => { draft with connection := { draft.connection with name := source.connection.name } }
  | .advanced => { draft with advanced := source.advanced }
  | .lastWill => { draft with lastWill := source.lastWill }
  | .userProperties => { draft with userProperties := source.userProperties }

@[simp]
theorem withPart_self (draft : Draft) (part : Part) : draft.withPart part draft = draft := by
  cases part <;> rfl

theorem withPart_comm {p q : Part} (h : p ≠ q) (draft first second : Draft) :
    (draft.withPart p first).withPart q second = (draft.withPart q second).withPart p first := by
  cases p <;> cases q <;> first | rfl | exact absurd rfl h

/-! ## What an event reads -/

section Reads

variable {config : Config} {q : Part} (draft source : Draft)

@[simp]
theorem editing_withPart : (draft.withPart q source).editing = draft.editing := by
  cases q <;> rfl

theorem identity_withPart (h : .identity ≠ q) :
    (draft.withPart q source).connection.identity = draft.connection.identity := by
  cases q <;> first | rfl | exact absurd rfl h

theorem withIdentity_withPart (h : .identity ≠ q) (identity : Identity) :
    (draft.withPart q source).withIdentity identity = (draft.withIdentity identity).withPart q source := by
  cases q <;> first | rfl | exact absurd rfl h

theorem advanced_withPart (h : .advanced ≠ q) :
    (draft.withPart q source).advanced = draft.advanced := by
  cases q <;> first | rfl | exact absurd rfl h

theorem withAdvanced_withPart (h : .advanced ≠ q) (advanced : AdvancedStep) :
    { draft.withPart q source with advanced } = withPart { draft with advanced } q source := by
  cases q <;> first | rfl | exact absurd rfl h

theorem editUrl_withPart (h : .address ≠ q) (url : Json) :
    (draft.withPart q source).editUrl url = (draft.editUrl url).withPart q source := by
  cases q <;> first | rfl | exact absurd rfl h

theorem selectTransport_withPart (h : .address ≠ q) (transport : Transport) :
    (draft.withPart q source).selectTransport config transport
      = (draft.selectTransport config transport).map (·.withPart q source) := by
  have hendpoints : (draft.withPart q source).endpoints = draft.endpoints := by
    cases q <;> first | rfl | exact absurd rfl h
  have htransported : (draft.withPart q source).transported config transport
      = (draft.transported config transport).withPart q source := by
    cases q <;> first | rfl | exact absurd rfl h
  rw [selectTransport_eq_ite, selectTransport_eq_ite, hendpoints, htransported]
  split <;> rfl

theorem loadSettings_withPart (h : .address ≠ q) (settings : Option ConnectivitySettings) :
    (draft.withPart q source).loadSettings config settings
      = (draft.loadSettings config settings).map (·.withPart q source) := by
  have hreloads : (draft.withPart q source).reloadsUrl config = draft.reloadsUrl config := by
    rw [reloadsUrl, reloadsUrl, editing_withPart]
  have hloadable : (draft.withPart q source).loadable config settings = draft.loadable config settings := by
    rw [loadable, loadable, hreloads]
    cases q <;> first | rfl | exact absurd rfl h
  have hloaded : (draft.withPart q source).loaded config settings
      = (draft.loaded config settings).withPart q source := by
    rw [loaded, loaded, hreloads]
    split
    · cases q <;> first | rfl | exact absurd rfl h
    · cases q <;> first | rfl | exact absurd rfl h
  rw [loadSettings_eq_ite, loadSettings_eq_ite, hloadable, hloaded]
  split <;> rfl

theorem editConnectionField_withPart {field : ConnectionField} (h : field.part ≠ q) (value : Json) :
    (draft.withPart q source).editConnectionField field value
      = (draft.editConnectionField field value).withPart q source := by
  cases field <;> cases q <;> first | rfl | exact absurd rfl h

theorem changeVersion_withPart (h : .advanced ≠ q) (version : Json) :
    (draft.withPart q source).changeVersion version
      = (draft.changeVersion version).map (·.withPart q source) := by
  rw [changeVersion, changeVersion, advanced_withPart draft source h]
  cases liftFault (MqttVersion.ofJson version) with
  | error error => rfl
  | ok version => exact congrArg Except.ok (withAdvanced_withPart draft source h _)

theorem editAdvancedField_withPart (h : .advanced ≠ q) (field : AdvancedField) (value : Json) :
    (draft.withPart q source).editAdvancedField field value
      = (draft.editAdvancedField field value).map (·.withPart q source) := by
  -- whatever is read of the value, only the step it is put into is the draft's
  have hread : ∀ {α : Type} (outcome : Except Error α) (step : α → AdvancedStep),
      (outcome.map fun a => { draft.withPart q source with advanced := step a })
        = (outcome.map fun a => { draft with advanced := step a }).map (·.withPart q source) := by
    intro α outcome step
    cases outcome with
    | error error => rfl
    | ok a => exact congrArg Except.ok (withAdvanced_withPart draft source h _)
  unfold editAdvancedField
  rw [advanced_withPart draft source h]
  cases field with
  | protocolVersion => exact changeVersion_withPart draft source h value
  | cleanStart | keepAlive | connectTimeout | reconnectPeriod =>
    exact congrArg Except.ok (withAdvanced_withPart draft source h _)
  | keepAliveUnit | connectTimeoutUnit | reconnectPeriodUnit | property _ => exact hread _ _

theorem selectMode_withPart (h : .identity ≠ q) (mode : Json) (g : Generator) :
    (draft.withPart q source).selectMode mode g
      = ((draft.selectMode mode g).1.map (·.withPart q source), (draft.selectMode mode g).2) := by
  simp only [Draft.selectMode, identity_withPart draft source h, editing_withPart]
  cases CredentialMode.ofJson mode with
  | error fault => rfl
  | ok mode => exact Prod.ext (congrArg Except.ok (withIdentity_withPart draft source h _)) rfl

theorem attach_withPart (h : .identity ≠ q) (credential? : Option LinkedCredential) (g : Generator) :
    (draft.withPart q source).attach credential? g
      = ((draft.attach credential? g).1.withPart q source, (draft.attach credential? g).2) := by
  simp only [attach, identity_withPart draft source h, editing_withPart]
  exact Prod.ext (withIdentity_withPart draft source h _) rfl

theorem changeReference_withPart (h : .identity ≠ q) (reference? : Option CredentialReference)
    (g : Generator) :
    (draft.withPart q source).changeReference reference? g
      = ((draft.changeReference reference? g).1.map (·.withPart q source),
          (draft.changeReference reference? g).2) := by
  cases reference? with
  | none =>
    simp only [changeReference, attach_withPart draft source h]
    rfl
  | some reference =>
    simp only [changeReference, attach_withPart draft source h]
    cases reference.link <;> rfl

theorem regenerate_withPart (h : .identity ≠ q) (field : Json) (g : Generator) :
    (draft.withPart q source).regenerate field g
      = ((draft.regenerate field g).1.map (·.withPart q source), (draft.regenerate field g).2) := by
  simp only [Draft.regenerate, identity_withPart draft source h]
  cases field.shown with
  | error fault => rfl
  | ok name =>
    dsimp only
    cases draft.connection.identity.regenerate name g with
    | mk outcome g' =>
      cases outcome with
      | error error => rfl
      | ok identity => exact Prod.ext (congrArg Except.ok (withIdentity_withPart draft source h _)) rfl

theorem editConnection_withPart {name value : Json} {p : Part}
    (hpart : (Event.editConnection name value).part? = some p) (hne : p ≠ q) :
    (draft.withPart q source).editConnection name value
      = (draft.editConnection name value).map (·.withPart q source) := by
  rw [Event.part?] at hpart
  rw [Draft.editConnection, Draft.editConnection]
  split at hpart
  · rename_i hurl
    cases hpart
    rw [if_pos hurl, if_pos hurl, editUrl_withPart draft source hne]
    rfl
  · rename_i hother
    rw [if_neg hother, if_neg hother]
    cases hfield : ConnectionField.ofJson? name with
    | none =>
      rw [hfield] at hpart
      cases hpart
    | some field =>
      rw [hfield] at hpart
      cases hpart
      dsimp only
      rw [editConnectionField_withPart draft source hne]
      rfl

/-- An event reads no part but its own. -/
theorem apply_withPart {event : Event} {p : Part} (hpart : event.part? = some p) (hne : p ≠ q)
    (g : Generator) :
    (draft.withPart q source).apply config event g
      = ((draft.apply config event g).1.map (·.withPart q source), (draft.apply config event g).2) := by
  cases event with
  | initialise | editNowhere _ => cases hpart
  | editConnection name value => exact Prod.ext (editConnection_withPart draft source hpart hne) rfl
  | selectMode mode =>
    cases hpart
    exact selectMode_withPart draft source hne mode g
  | changeReference reference? =>
    cases hpart
    exact changeReference_withPart draft source hne reference? g
  | regenerate field =>
    cases hpart
    exact regenerate_withPart draft source hne field g
  | selectTransport transport =>
    cases hpart
    simp only [apply]
    cases Transport.ofJson transport with
    | error fault => rfl
    | ok transport => exact Prod.ext (selectTransport_withPart draft source hne _) rfl
  | loadSettings settings =>
    cases hpart
    exact Prod.ext (loadSettings_withPart draft source hne _) rfl
  | editUrl url =>
    cases hpart
    exact Prod.ext (congrArg Except.ok (editUrl_withPart draft source hne _)) rfl
  | changeVersion version =>
    cases hpart
    exact Prod.ext (changeVersion_withPart draft source hne version) rfl
  | editAdvanced name value =>
    cases hpart
    simp only [apply, Draft.editAdvanced]
    cases AdvancedField.ofJson name with
    | error error => rfl
    | ok field => exact Prod.ext (editAdvancedField_withPart draft source hne field value) rfl
  | editLastWill lastWill =>
    cases hpart
    cases q <;> first | rfl | exact absurd rfl hne
  | editUserProperties input =>
    cases hpart
    simp only [apply, Draft.editUserProperties]
    cases liftFault input.read with
    | error error => rfl
    | ok userProperties => cases q <;> first | rfl | exact absurd rfl hne

end Reads

/-- An event that may not draw comes to the same with every generator, and leaves it. -/
theorem apply_of_not_draws {config : Config} {event : Event} (h : event.mayDraw = false) (draft : Draft)
    (g g' : Generator) : draft.apply config event g = ((draft.apply config event g').1, g) := by
  cases event with
  | selectMode _ | changeReference _ | regenerate _ => cases h
  | selectTransport transport =>
    simp only [apply]
    cases Transport.ofJson transport <;> rfl
  | _ => rfl

/-- Only events that concern the identity draw from the generator. -/
theorem apply_generator {config : Config} {draft : Draft} {event : Event} {p : Part}
    (hpart : event.part? = some p) (hne : p ≠ .identity) (g g' : Generator) :
    draft.apply config event g = ((draft.apply config event g').1, g) := by
  refine apply_of_not_draws ?_ draft g g'
  cases event with
  | selectMode _ | changeReference _ | regenerate _ =>
    cases hpart
    exact absurd rfl hne
  | _ => rfl

/-! ## What an event writes -/

/-- An event writes no part but its own. -/
theorem Becomes.eq_withPart {config : Config} {draft next : Draft} {event : Event} {p : Part}
    (h : Becomes config draft event next) (hpart : event.part? = some p) :
    next = draft.withPart p next := by
  cases h with
  | initialise => cases hpart
  | loadSettings _ =>
    cases hpart
    rw [loaded]
    split <;> rfl
  | editUrlField url =>
    cases hpart
    rfl
  | @editConnection name _ field hfield =>
    have hother : name ≠ .str "url" := by
      rintro rfl
      cases hfield
    rw [Event.part?, if_neg hother, hfield] at hpart
    cases hpart
    cases field <;> rfl
  | editAdvanced _ hedit =>
    cases hpart
    exact eq_with_advanced_of_edit hedit
  | _ =>
    cases hpart
    rfl

/-! ## Attempts -/

/-- How an event fails that is tried on a draft, if it does. -/
def failure? (config : Config) (event : Event) (draft : Draft) (g : Generator) : Option Error :=
  match (draft.apply config event g).1 with
  | .ok _ => none
  | .error error => some error

/-- Trying two events in either order comes to the same, for the draft, for the generator and for how either
event fails. -/
@[mk_iff]
structure Commute (config : Config) (first second : Event) (draft : Draft) (g : Generator) : Prop where
  attempts : draft.attemptAll config [first, second] g = draft.attemptAll config [second, first] g
  first_failure : (draft.attempt config second g).1.failure? config first (draft.attempt config second g).2
    = draft.failure? config first g
  second_failure : (draft.attempt config first g).1.failure? config second (draft.attempt config first g).2
    = draft.failure? config second g

theorem Commute.symm {config : Config} {first second : Event} {draft : Draft} {g : Generator}
    (h : Commute config first second draft g) : Commute config second first draft g :=
  ⟨h.attempts.symm, h.second_failure, h.first_failure⟩

section Attempts

variable (config : Config) {event : Event} {p q : Part}

/-- Trying an event writes no part but its own. -/
theorem attempt_eq_withPart (hpart : event.part? = some p) (draft : Draft) (g : Generator) :
    (draft.attempt config event g).1 = draft.withPart p (draft.attempt config event g).1 := by
  cases happly : (draft.apply config event g).1 with
  | error error => rw [attempt_of_error happly, withPart_self]
  | ok next =>
    rw [attempt_of_ok happly]
    exact (becomes_of_apply happly).eq_withPart hpart

/-- Trying an event reads no part but its own. -/
theorem attempt_withPart (hpart : event.part? = some p) (hne : p ≠ q) (draft source : Draft)
    (g : Generator) :
    (draft.withPart q source).attempt config event g
      = ((draft.attempt config event g).1.withPart q source, (draft.attempt config event g).2) := by
  rw [attempt, attempt, apply_withPart draft source hpart hne]
  cases draft.apply config event g with
  | mk outcome g' => cases outcome <;> rfl

theorem failure_withPart (hpart : event.part? = some p) (hne : p ≠ q) (draft source : Draft)
    (g : Generator) : (draft.withPart q source).failure? config event g = draft.failure? config event g := by
  rw [failure?, failure?, apply_withPart draft source hpart hne]
  cases (draft.apply config event g).1 <;> rfl

/-- An event that does not concern the identity is tried alike with every generator, and leaves it. -/
theorem attempt_generator (hpart : event.part? = some p) (hne : p ≠ .identity) (draft : Draft)
    (g g' : Generator) :
    draft.attempt config event g = ((draft.attempt config event g').1, g) := by
  rw [attempt, attempt, apply_generator hpart hne g g']
  cases draft.apply config event g' with
  | mk outcome g'' => cases outcome <;> rfl

theorem failure_generator (hpart : event.part? = some p) (hne : p ≠ .identity) (draft : Draft)
    (g g' : Generator) : draft.failure? config event g = draft.failure? config event g' := by
  rw [failure?, failure?, apply_generator hpart hne g g']

end Attempts

/-- An event that leaves the generator alone commutes with every event that concerns another part. -/
theorem commute_of_part {config : Config} {first second : Event} {p q : Part}
    (hfirst : first.part? = some p) (hsecond : second.part? = some q) (hne : p ≠ q)
    (hspares : p ≠ .identity) (draft : Draft) (g : Generator) : Commute config first second draft g := by
  obtain ⟨d₁, hd₁⟩ : ∃ d₁, draft.attempt config first g = (d₁, g) :=
    ⟨_, attempt_generator config hfirst hspares draft g g⟩
  obtain ⟨d₂, g₂, hd₂⟩ : ∃ d₂ g₂, draft.attempt config second g = (d₂, g₂) := ⟨_, _, rfl⟩
  -- each attempt writes its own part only
  have hwrites₁ : d₁ = draft.withPart p d₁ := by
    have hwrites := attempt_eq_withPart config hfirst draft g
    rwa [hd₁] at hwrites
  have hwrites₂ : d₂ = draft.withPart q d₂ := by
    have hwrites := attempt_eq_withPart config hsecond draft g
    rwa [hd₂] at hwrites
  -- so it does to the draft that the other leaves what it does to the first one
  have hlater₁ : d₂.attempt config first g₂ = (d₁.withPart q d₂, g₂) := by
    rw [hwrites₂, attempt_withPart config hfirst hne, attempt_generator config hfirst hspares draft g₂ g, hd₁,
      ← hwrites₂]
  have hlater₂ : d₁.attempt config second g = (d₂.withPart p d₁, g₂) := by
    rw [hwrites₁, attempt_withPart config hsecond hne.symm, hd₂, ← hwrites₁]
  have hsame : d₁.withPart q d₂ = d₂.withPart p d₁ := by
    rw [hwrites₁, withPart_comm hne, ← hwrites₁, ← hwrites₂]
  constructor
  · simp only [attemptAll, hd₁, hd₂, hlater₁, hlater₂, hsame]
  · rw [hd₂, hwrites₂, failure_withPart config hfirst hne, failure_generator config hfirst hspares draft g₂ g]
  · rw [hd₁, hwrites₁, failure_withPart config hsecond hne.symm]

/-! ## Events that derive the address -/

section Deriving

variable (config : Config) (draft : Draft) (g : Generator)

theorem apply_selectTransport {value : Json} {transport : Transport}
    (htransport : Transport.ofJson value = .ok transport) :
    draft.apply config (.selectTransport value) g
      = (if derivable transport draft.endpoints then .ok (draft.transported config transport)
          else .error (.fault .badValue), g) := by
  rw [apply, htransport]
  dsimp only
  rw [selectTransport_eq_ite]

theorem apply_loadSettings {draft : Draft} (h : draft.reloadsUrl config = true)
    (settings : Option ConnectivitySettings) :
    draft.apply config (.loadSettings settings) g
      = (if derivable draft.connection.transport (draft.endpoints.merge settings) then
            .ok (draft.loaded config settings)
          else .error (.fault .badValue), g) := by
  rw [apply, loadSettings_eq_ite, loadable, h]
  rfl

/-- Where loads derive the address, a transport that is selected before a load makes no difference to a draft in
which it is selected after it. -/
theorem loaded_transported {draft : Draft} (h : draft.reloadsUrl config = true) (transport : Transport)
    (settings : Option ConnectivitySettings) :
    (draft.transported config transport).loaded config settings
      = (draft.loaded config settings).transported config transport := by
  have hafter : (draft.transported config transport).reloadsUrl config = true := h
  rw [loaded, loaded, if_pos h, if_pos hafter]
  rfl

/-- A value that names no transport commutes with every load. -/
theorem commute_selectTransport_of_error {value : Json} {fault : Fault}
    (htransport : Transport.ofJson value = .error fault) (settings : Option ConnectivitySettings) :
    Commute config (.selectTransport value) (.loadSettings settings) draft g := by
  have hfails : ∀ d : Draft, d.apply config (.selectTransport value) g = (.error (.fault fault), g) := by
    intro d
    rw [apply, htransport]
  have hkept : ∀ d : Draft, d.attempt config (.selectTransport value) g = (d, g) := by
    intro d
    rw [attempt, hfails]
  obtain ⟨d₁, hloaded⟩ : ∃ d₁, draft.attempt config (.loadSettings settings) g = (d₁, g) := by
    rw [attempt, apply]
    cases draft.loadSettings config settings <;> exact ⟨_, rfl⟩
  constructor
  · simp only [attemptAll, hkept, hloaded]
  · rw [hloaded, failure?, failure?, hfails, hfails]
  · rw [hkept]

/-- Where loads of settings derive the address, selecting a transport and loading settings commute exactly if a
load that succeeds does not decide whether the transport can be selected, nor the other way round. -/
theorem commute_selectTransport_loadSettings_iff {draft : Draft} (h : draft.reloadsUrl config = true)
    {value : Json} {transport : Transport} (htransport : Transport.ofJson value = .ok transport)
    (settings : Option ConnectivitySettings) :
    Commute config (.selectTransport value) (.loadSettings settings) draft g
      ↔ (derivable draft.connection.transport (draft.endpoints.merge settings) = true →
          derivable transport (draft.endpoints.merge settings) = derivable transport draft.endpoints)
        ∧ (derivable transport draft.endpoints = true →
          derivable transport (draft.endpoints.merge settings)
            = derivable draft.connection.transport (draft.endpoints.merge settings)) := by
  have hselect := draft.apply_selectTransport config g htransport
  have hload := apply_loadSettings config g h settings
  -- each of the two on what the other makes of the draft, where the other succeeds
  have hselectLater : (draft.loaded config settings).apply config (.selectTransport value) g
      = (if derivable transport (draft.endpoints.merge settings) then
            .ok ((draft.loaded config settings).transported config transport)
          else .error (.fault .badValue), g) := by
    rw [apply_selectTransport config _ g htransport]
    have hendpoints : (draft.loaded config settings).endpoints = draft.endpoints.merge settings := by
      rw [loaded]
      split <;> rfl
    rw [hendpoints]
  have hloadLater : (draft.transported config transport).apply config (.loadSettings settings) g
      = (if derivable transport (draft.endpoints.merge settings) then
            .ok ((draft.loaded config settings).transported config transport)
          else .error (.fault .badValue), g) := by
    have hafter : (draft.transported config transport).reloadsUrl config = true := h
    rw [apply_loadSettings config g hafter, loaded_transported config h]
    rfl
  -- one case for each answer to whether the three addresses can be derived
  cases hselected : derivable transport draft.endpoints <;>
    cases hloaded : derivable draft.connection.transport (draft.endpoints.merge settings) <;>
    cases hboth : derivable transport (draft.endpoints.merge settings) <;>
    simp [commute_iff, attemptAll, attempt, failure?, hselect, hload, hselectLater, hloadLater, hselected,
      hloaded, hboth]

end Deriving

/-! ## All events -/

/-- Events that concern different parts of a draft commute, whatever the draft and the generator are.  Where
loads derive the address, selecting a transport and loading settings commute too, unless a port that cannot be
written makes one of them fail in one order only.  An event that fails leaves the draft as it was. -/
theorem events_commute (config : Config) (draft : Draft) (g : Generator) :
    (∀ first second p q, first.part? = some p → second.part? = some q → p ≠ q →
        Commute config first second draft g)
      ∧ (draft.reloadsUrl config = true → ∀ value settings,
        (∀ fault, Transport.ofJson value = .error fault →
            Commute config (.selectTransport value) (.loadSettings settings) draft g)
          ∧ ∀ transport, Transport.ofJson value = .ok transport →
            (Commute config (.selectTransport value) (.loadSettings settings) draft g
              ↔ (derivable draft.connection.transport (draft.endpoints.merge settings) = true →
                  derivable transport (draft.endpoints.merge settings) = derivable transport draft.endpoints)
                ∧ (derivable transport draft.endpoints = true →
                  derivable transport (draft.endpoints.merge settings)
                    = derivable draft.connection.transport (draft.endpoints.merge settings))))
      ∧ ∀ event, (draft.failure? config event g).isSome = true →
        (draft.attempt config event g).1 = draft := by
  refine ⟨fun first second p q hfirst hsecond hne => ?_, fun hreloads value settings =>
    ⟨fun fault hfault => draft.commute_selectTransport_of_error config g hfault settings,
      fun transport htransport =>
        commute_selectTransport_loadSettings_iff config g hreloads htransport settings⟩,
    fun event hfails => ?_⟩
  · -- at most one of the two parts is the identity, so one of the events leaves the generator alone
    by_cases hidentity : p = .identity
    · exact (commute_of_part hsecond hfirst hne.symm (hidentity ▸ hne.symm) draft g).symm
    · exact commute_of_part hfirst hsecond hne hidentity draft g
  · cases happly : (draft.apply config event g).1 with
    | error error => exact attempt_of_error happly
    | ok next =>
      rw [failure?, happly] at hfails
      cases hfails

/-- Generating a client identifier anew commutes with selecting a transport, and so does a load of settings
in a flow that starts afresh. -/
theorem regenerate_commutes :
    (first (.ofStep 0 7)).attemptAll Config.standard
        [.regenerate (.str "client_id"), .selectTransport (.str "wss")] (.ofStep 3 5)
      = (first (.ofStep 0 7)).attemptAll Config.standard
        [.selectTransport (.str "wss"), .regenerate (.str "client_id")] (.ofStep 3 5)
      ∧ (first (.ofStep 0 7)).attemptAll Config.standard
        [.selectTransport (.str "wss"), .loadSettings none] (.ofStep 3 5)
      = (first (.ofStep 0 7)).attemptAll Config.standard
        [.loadSettings none, .selectTransport (.str "wss")] (.ofStep 3 5) := by
  obtain ⟨hparts, hloads, -⟩ := events_commute Config.standard (first (.ofStep 0 7)) (.ofStep 3 5)
  have hports : ∀ transport, derivable transport Config.standard.defaultEndpoints = true := by
    intro transport
    cases transport <;> decide
  have hcommute := ((hloads rfl (.str "wss") none).2 .secure rfl).mpr
    ⟨fun _ => rfl, fun _ => (hports .secure).trans (hports .plain).symm⟩
  exact ⟨(hparts _ _ .identity .address rfl rfl (by decide)).attempts, hcommute.attempts⟩

/-- Settings that advertise a port with too many digits for secured connections. -/
def longPortSettings : ConnectivitySettings :=
  ⟨.nothing, ⟨true, "broker.example", some (Nat.pow 10 Text.digitLimit)⟩⟩

/-- Once such settings are loaded, the secured transport cannot be selected any more, and once it is selected,
they cannot be loaded. -/
theorem long_port_first_comes_first :
    let g : Generator := .ofStep 0 7
    Begun Config.standard (first g) ∧ (first g).reloadsUrl Config.standard = true
      ∧ ((first g).attemptAll Config.standard
          [.selectTransport (.str "wss"), .loadSettings (some longPortSettings)] g).1.connection.transport
        = .secure
      ∧ ((first g).attemptAll Config.standard
          [.loadSettings (some longPortSettings), .selectTransport (.str "wss")] g).1.connection.transport
        = .plain := by
  intro g
  have hlong : derivable .secure ((first g).endpoints.merge (some longPortSettings)) = false :=
    Text.not_writable_pow
  have hselect : (first g).apply Config.standard (.selectTransport (.str "wss")) g
      = (.ok ((first g).transported Config.standard .secure), g) := by
    rw [apply_selectTransport Config.standard _ g rfl, if_pos (by decide)]
  have hload : (first g).apply Config.standard (.loadSettings (some longPortSettings)) g
      = (.ok ((first g).loaded Config.standard (some longPortSettings)), g) := by
    rw [apply_loadSettings Config.standard g rfl, if_pos (by decide)]
  -- each of the two fails once the other succeeded
  have hloadLater : ((first g).transported Config.standard .secure).apply Config.standard
      (.loadSettings (some longPortSettings)) g = (.error (.fault .badValue), g) := by
    rw [apply_loadSettings Config.standard g rfl, if_neg]
    exact Bool.eq_false_iff.mp hlong
  have hselectLater : ((first g).loaded Config.standard (some longPortSettings)).apply Config.standard
      (.selectTransport (.str "wss")) g = (.error (.fault .badValue), g) := by
    rw [apply_selectTransport Config.standard _ g rfl, if_neg]
    exact Bool.eq_false_iff.mp hlong
  refine ⟨begun_first g, rfl, ?_, ?_⟩
  · simp only [attemptAll, attempt, hselect, hloadLater]
    rfl
  · simp only [attemptAll, attempt, hload, hselectLater]
    rfl

end Draft

end MqttProfile
