import MqttProfile.Draft.Event
import MqttProfile.Proofs.Success

/-!
# The drafts that events lead to

A flow begins with a draft that starts afresh or edits a profile, and then takes one event after the
other.  An event that fails leaves the draft as it was, so only those that succeed are steps.  Each step
may draw from a generator of its own: what is shown here of every reached draft holds whatever else was
drawn in between.

Four things live here:

* `transported` and `loaded`, what the two events make of a draft that derive an address, and when they fail;
* `Becomes`, everything that an event can do to a draft, with the readings of its values already done;
* `Begun` and `Reached`, along which invariants of drafts are proved by induction;
* `Identity.Change`, everything that an event can do to the identity of a draft, so that facts about
  identities need not look at the other parts of a draft.
-/

namespace MqttProfile

/-- A fault is still a failure once it is an error. -/
theorem eq_ok_of_liftFault_eq_ok {α : Type} {outcome : Except Fault α} {a : α}
    (h : liftFault outcome = .ok a) : outcome = .ok a := by
  cases outcome with
  | error _ => cases h
  | ok _ =>
    cases h
    rfl

namespace Draft

/-! ## Derived addresses -/

/-- Whether the address of a transport can be derived: the port of its endpoint has to be written. -/
def derivable (transport : Transport) (endpoints : Endpoints) : Bool :=
  Text.writable (endpoints.get transport).port

theorem deriveUrl_eq_ite (config : Config) (transport : Transport) (endpoints : Endpoints) :
    deriveUrl config transport endpoints
      = if derivable transport endpoints then .ok (derivedUrl config transport endpoints)
        else .error (.fault .badValue) := by
  rw [deriveUrl, derivable]
  cases hport : Text.writable (endpoints.get transport).port with
  | true => rw [transport.derive_of_writable _ hport]; rfl
  | false => rw [transport.derive_of_not_writable _ hport]; rfl

/-- The draft with another transport and the address of its endpoint. -/
def transported (config : Config) (draft : Draft) (transport : Transport) : Draft :=
  draft.withTransport transport (derivedUrl config transport draft.endpoints)

/-- Selecting a transport fails exactly if its address cannot be derived. -/
theorem selectTransport_eq_ite (config : Config) (draft : Draft) (transport : Transport) :
    draft.selectTransport config transport
      = if derivable transport draft.endpoints then .ok (draft.transported config transport)
        else .error (.fault .badValue) := by
  rw [selectTransport, deriveUrl_eq_ite]
  split <;> rfl

/-- Whether a load of settings derives the address in the flow of a draft. -/
def reloadsUrl (config : Config) (draft : Draft) : Bool :=
  config.rederive.applies draft.editing.isSome

/-- The draft with the endpoints that settings lead to, and a new address where the configuration says so. -/
def loaded (config : Config) (draft : Draft) (settings : Option ConnectivitySettings) : Draft :=
  let endpoints := draft.endpoints.merge settings
  if draft.reloadsUrl config then
    { draft with endpoints }.withUrl (derivedUrl config draft.connection.transport endpoints)
  else { draft with endpoints }

/-- Whether settings can be loaded: where a new address follows, it has to be derived. -/
def loadable (config : Config) (draft : Draft) (settings : Option ConnectivitySettings) : Bool :=
  !draft.reloadsUrl config || derivable draft.connection.transport (draft.endpoints.merge settings)

/-- Loading settings fails exactly if a new address should follow and cannot be derived. -/
theorem loadSettings_eq_ite (config : Config) (draft : Draft) (settings : Option ConnectivitySettings) :
    draft.loadSettings config settings
      = if draft.loadable config settings then .ok (draft.loaded config settings)
        else .error (.fault .badValue) := by
  have hunfold : draft.loadSettings config settings
      = if draft.reloadsUrl config then
          (deriveUrl config draft.connection.transport (draft.endpoints.merge settings)).map fun url =>
            { draft with endpoints := draft.endpoints.merge settings }.withUrl url
        else .ok { draft with endpoints := draft.endpoints.merge settings } := rfl
  rw [hunfold, loadable, loaded, deriveUrl_eq_ite]
  cases draft.reloadsUrl config with
  | false => rfl
  | true => cases derivable draft.connection.transport (draft.endpoints.merge settings) <;> rfl

/-! ## Steps -/

/-- The draft with a version of the protocol and its version 5 fields open or closed. -/
def withVersion (draft : Draft) (version : MqttVersion) : Draft :=
  { draft with
    advanced := { draft.advanced with
      protocolVersion := draft.advanced.protocolVersion.set version
      properties := draft.advanced.properties.gate version.level } }

/-- What an event that succeeds does to a draft. -/
inductive Becomes (config : Config) (draft : Draft) : Event → Draft → Prop
  | initialise : Becomes config draft .initialise draft.settled
  | selectMode {value : Json} {mode : CredentialMode} (g : Generator)
      (h : CredentialMode.ofJson value = .ok mode) :
      Becomes config draft (.selectMode value)
        (draft.withIdentity (draft.connection.identity.selectMode mode draft.editing g).1)
  | detach (g : Generator) :
      Becomes config draft (.changeReference none)
        (draft.withIdentity (draft.connection.identity.attach none draft.editing g).1)
  | attach {reference : CredentialReference} {credential : LinkedCredential} (g : Generator)
      (h : reference.link = .ok credential) :
      Becomes config draft (.changeReference (some reference))
        (draft.withIdentity (draft.connection.identity.attach (some credential) draft.editing g).1)
  | changeVersion {value : Json} {version : MqttVersion} (h : MqttVersion.ofJson value = .ok version) :
      Becomes config draft (.changeVersion value) (draft.withVersion version)
  | selectTransport {value : Json} {transport : Transport}
      (h : Transport.ofJson value = .ok transport) (hport : derivable transport draft.endpoints = true) :
      Becomes config draft (.selectTransport value) (draft.transported config transport)
  | loadSettings {settings : Option ConnectivitySettings} (hport : draft.loadable config settings = true) :
      Becomes config draft (.loadSettings settings) (draft.loaded config settings)
  | editUrl (url : Json) : Becomes config draft (.editUrl url) (draft.editUrl url)
  | editUrlField (url : Json) : Becomes config draft (.editConnection (.str "url") url) (draft.editUrl url)
  | editConnection {name value : Json} {field : ConnectionField}
      (h : ConnectionField.ofJson? name = some field) :
      Becomes config draft (.editConnection name value) (draft.editConnectionField field value)
  | editAdvanced {name value : Json} {field : AdvancedField} {next : Draft}
      (h : AdvancedField.ofJson name = .ok field) (hedit : draft.editAdvancedField field value = .ok next) :
      Becomes config draft (.editAdvanced name value) next
  | editLastWill (lastWill : Option LastWill) :
      Becomes config draft (.editLastWill lastWill) { draft with lastWill }
  | editUserProperties {input : PropertyInput} {userProperties : List UserProperty}
      (h : input.read = .ok userProperties) :
      Becomes config draft (.editUserProperties input) { draft with userProperties }
  | regenerate {field : Json} {name : String} {identity : Identity} (g : Generator)
      (hname : field.shown = .ok name) (h : (draft.connection.identity.regenerate name g).1 = .ok identity) :
      Becomes config draft (.regenerate field) (draft.withIdentity identity)

theorem changeVersion_ok {draft next : Draft} {value : Json} (h : draft.changeVersion value = .ok next) :
    ∃ version, MqttVersion.ofJson value = .ok version ∧ next = draft.withVersion version := by
  obtain ⟨version, hversion, rfl⟩ := exists_of_map_eq_ok h
  exact ⟨version, eq_ok_of_liftFault_eq_ok hversion, rfl⟩

/-- Events that succeed are steps. -/
theorem becomes_of_apply {config : Config} {draft next : Draft} {event : Event} {g : Generator}
    (h : (draft.apply config event g).1 = .ok next) : Becomes config draft event next := by
  -- one case for each event; where the reading of its value fails there is no next draft
  cases event with
  | initialise =>
    cases h
    exact .initialise
  | selectMode value =>
    simp only [apply, Draft.selectMode] at h
    split at h
    · cases h
    · rename_i mode hmode
      cases h
      exact .selectMode g hmode
  | changeReference reference? =>
    cases reference? with
    | none =>
      cases h
      exact .detach g
    | some reference =>
      simp only [apply, changeReference] at h
      split at h
      · cases h
      · rename_i credential hlink
        cases h
        exact .attach g hlink
  | changeVersion value =>
    obtain ⟨version, hversion, rfl⟩ := changeVersion_ok h
    exact .changeVersion hversion
  | selectTransport value =>
    simp only [apply] at h
    split at h
    · rename_i transport htransport
      dsimp only at h
      rw [selectTransport_eq_ite] at h
      split at h
      · rename_i hport
        cases h
        exact .selectTransport htransport hport
      · cases h
    · cases h
  | loadSettings settings =>
    simp only [apply] at h
    rw [loadSettings_eq_ite] at h
    split at h
    · rename_i hport
      cases h
      exact .loadSettings hport
    · cases h
  | editUrl url =>
    cases h
    exact .editUrl url
  | editConnection name value =>
    simp only [apply, Draft.editConnection] at h
    split at h
    · rename_i hurl
      cases h
      rw [hurl]
      exact .editUrlField value
    · split at h
      · rename_i field hfield
        cases h
        exact .editConnection hfield
      · cases h
  | editAdvanced name value =>
    simp only [apply, Draft.editAdvanced] at h
    cases hfield : AdvancedField.ofJson name with
    | error error =>
      rw [hfield] at h
      cases h
    | ok field =>
      rw [hfield] at h
      exact .editAdvanced hfield h
  | editLastWill lastWill =>
    cases h
    exact .editLastWill lastWill
  | editUserProperties input =>
    obtain ⟨userProperties, hread, rfl⟩ := exists_of_map_eq_ok h
    exact .editUserProperties (eq_ok_of_liftFault_eq_ok hread)
  | editNowhere field => cases h
  | regenerate field =>
    simp only [apply, Draft.regenerate] at h
    split at h
    · cases h
    · rename_i name hname
      obtain ⟨identity, hdrawn, rfl⟩ := exists_of_map_eq_ok h
      exact .regenerate g hname hdrawn

/-- An edit of the advanced step leaves all other parts of the draft alone. -/
theorem eq_with_advanced_of_edit {draft next : Draft} {field : AdvancedField} {value : Json}
    (h : draft.editAdvancedField field value = .ok next) :
    next = { draft with advanced := next.advanced } := by
  cases field with
  | protocolVersion =>
    obtain ⟨version, -, rfl⟩ := changeVersion_ok h
    rfl
  | cleanStart | keepAlive | connectTimeout | reconnectPeriod =>
    cases h
    rfl
  | keepAliveUnit | connectTimeoutUnit | reconnectPeriodUnit | property _ =>
    obtain ⟨_, -, rfl⟩ := exists_of_map_eq_ok h
    rfl

/-- No event changes what a draft edits and what it knows of its page. -/
theorem Becomes.origin_eq {config : Config} {draft next : Draft} {event : Event}
    (h : Becomes config draft event next) :
    next.editing = draft.editing ∧ next.pageIsSecure = draft.pageIsSecure := by
  cases h with
  | editAdvanced _ hedit =>
    rw [eq_with_advanced_of_edit hedit]
    exact ⟨rfl, rfl⟩
  | loadSettings _ =>
    rw [loaded]
    split <;> exact ⟨rfl, rfl⟩
  | @editConnection _ _ field _ => cases field <;> exact ⟨rfl, rfl⟩
  | _ => exact ⟨rfl, rfl⟩

theorem Becomes.editing_eq {config : Config} {draft next : Draft} {event : Event}
    (h : Becomes config draft event next) : next.editing = draft.editing :=
  h.origin_eq.1

/-! ## Flows -/

/-- A profile is opened as soon as its address and its last will can be read. -/
theorem ofProfile_of_read (config : Config) (pageIsSecure : Bool) {profile : Profile} (g : Generator)
    {transport : Transport} {lastWill : Option LastWill}
    (htransport : Transport.ofUrl profile.configuration.url = .ok transport)
    (hwill : storedWill profile.configuration = .ok lastWill) :
    Draft.ofProfile config pageIsSecure profile g
      = (.ok (hydrated config pageIsSecure profile transport (Identity.initial (some profile) g).1
          lastWill), (Identity.initial (some profile) g).2) := by
  simp only [ofProfile, htransport, hwill]

/-- A draft that edits a profile was read from it. -/
theorem ofProfile_ok {config : Config} {pageIsSecure : Bool} {profile : Profile} {g : Generator}
    {draft : Draft} (h : (Draft.ofProfile config pageIsSecure profile g).1 = .ok draft) :
    ∃ transport lastWill, Transport.ofUrl profile.configuration.url = .ok transport
      ∧ storedWill profile.configuration = .ok lastWill
      ∧ draft = hydrated config pageIsSecure profile transport
          (Identity.initial (some profile) g).1 lastWill := by
  cases htransport : Transport.ofUrl profile.configuration.url with
  | error fault =>
    simp only [ofProfile, htransport] at h
    cases h
  | ok transport =>
    cases hwill : storedWill profile.configuration with
    | error fault =>
      simp only [ofProfile, htransport, hwill] at h
      cases h
    | ok lastWill =>
      rw [ofProfile_of_read config pageIsSecure g htransport hwill] at h
      cases h
      exact ⟨transport, lastWill, rfl, rfl, rfl⟩

theorem editing_of_ofProfile {config : Config} {pageIsSecure : Bool} {profile : Profile} {g : Generator}
    {draft : Draft} (h : (Draft.ofProfile config pageIsSecure profile g).1 = .ok draft) :
    draft.editing = some profile := by
  obtain ⟨transport, lastWill, -, -, rfl⟩ := ofProfile_ok h
  rfl

/-- A draft that starts afresh has a name, and the address of the plain default endpoint. -/
theorem new_ok {config : Config} {pageIsSecure : Bool} {connections : Int} {g : Generator} {draft : Draft}
    (h : (Draft.new config pageIsSecure connections g).1 = .ok draft) :
    ∃ name, connectionName (connections + 1) = .ok name
      ∧ derivable .plain config.defaultEndpoints = true
      ∧ draft = initial config pageIsSecure name (derivedUrl config .plain config.defaultEndpoints)
          (Identity.initial none g).1 := by
  rw [Draft.new] at h
  split at h
  · cases h
  · rename_i name hname
    rw [named, deriveUrl_eq_ite] at h
    cases hport : derivable .plain config.defaultEndpoints with
    | false =>
      rw [hport] at h
      cases h
    | true =>
      rw [hport] at h
      cases h
      exact ⟨name, hname, rfl, rfl⟩

/-- The drafts with which a flow begins. -/
inductive Begun (config : Config) : Draft → Prop
  | fresh {pageIsSecure : Bool} {connections : Int} {g : Generator} {draft : Draft}
      (h : (Draft.new config pageIsSecure connections g).1 = .ok draft) : Begun config draft
  | edited {pageIsSecure : Bool} {profile : Profile} {g : Generator} {draft : Draft}
      (h : (Draft.ofProfile config pageIsSecure profile g).1 = .ok draft) : Begun config draft

/-- The first draft of a standard configuration, on a page that is not secured. -/
def first (g : Generator) : Draft :=
  initial Config.standard false "WebSocket Connection 1" (.str "ws://localhost:8084/mqtt")
    (Identity.initial none g).1

/-- It is what starts afresh when there is no connection yet. -/
theorem new_standard (g : Generator) : (Draft.new Config.standard false 0 g).1 = .ok (first g) := rfl

theorem begun_first (g : Generator) : Begun Config.standard (first g) :=
  .fresh (new_standard g)

/-- The first draft of a standard configuration, on a page that is secured. -/
def firstSecured (g : Generator) : Draft :=
  initial Config.standard true "WebSocket Connection 1" (.str "ws://localhost:8084/mqtt")
    (Identity.initial none g).1

theorem new_secured (g : Generator) : (Draft.new Config.standard true 0 g).1 = .ok (firstSecured g) := rfl

/-- `Reached config start events draft` says that the events, the latest first, lead from one draft to
the other. -/
inductive Reached (config : Config) (start : Draft) : List Event → Draft → Prop
  | refl : Reached config start [] start
  | step {events : List Event} {event : Event} {draft next : Draft} {g : Generator}
      (before : Reached config start events draft)
      (happly : (draft.apply config event g).1 = .ok next) :
      Reached config start (event :: events) next

/-- Tries an event: one that fails leaves the draft as it was. -/
def attempt (config : Config) (event : Event) (draft : Draft) (g : Generator) : Draft × Generator :=
  match draft.apply config event g with
  | (.ok next, g) => (next, g)
  | (.error _, g) => (draft, g)

/-- Tries events one after the other. -/
def attemptAll (config : Config) (events : List Event) (draft : Draft) (g : Generator) :
    Draft × Generator :=
  match events with
  | [] => (draft, g)
  | event :: events =>
    let (draft, g) := draft.attempt config event g
    draft.attemptAll config events g

/-- An event that succeeds is a step. -/
theorem attempt_of_ok {config : Config} {draft next : Draft} {event : Event} {g : Generator}
    (h : (draft.apply config event g).1 = .ok next) : (draft.attempt config event g).1 = next := by
  rw [attempt]
  cases happly : draft.apply config event g with
  | mk outcome g' =>
    rw [happly] at h
    cases h
    rfl

/-- An event that fails is none. -/
theorem attempt_of_error {config : Config} {draft : Draft} {event : Event} {g : Generator} {error : Error}
    (h : (draft.apply config event g).1 = .error error) : (draft.attempt config event g).1 = draft := by
  rw [attempt]
  cases happly : draft.apply config event g with
  | mk outcome g' =>
    rw [happly] at h
    cases h
    rfl

theorem apply_selectMode (config : Config) (draft : Draft) {value : Json} {mode : CredentialMode}
    (hmode : CredentialMode.ofJson value = .ok mode) (g : Generator) :
    (draft.apply config (.selectMode value) g).1
      = .ok (draft.withIdentity (draft.connection.identity.selectMode mode draft.editing g).1) := by
  simp only [apply, Draft.selectMode, hmode]

theorem apply_attach (config : Config) (draft : Draft) (credential : LinkedCredential) (g : Generator) :
    (draft.apply config (.changeReference (some credential.record)) g).1
      = .ok (draft.withIdentity
          (draft.connection.identity.attach (some credential) draft.editing g).1) := by
  simp only [apply, changeReference, CredentialReference.link_eq_ok credential.decode_eq, Draft.attach]

theorem Reached.selectMode {config : Config} {start draft : Draft} {events : List Event}
    (h : Reached config start events draft) {value : Json} {mode : CredentialMode}
    (hmode : CredentialMode.ofJson value = .ok mode) (g : Generator) :
    Reached config start (.selectMode value :: events)
      (draft.withIdentity (draft.connection.identity.selectMode mode draft.editing g).1) :=
  h.step (apply_selectMode config draft hmode g)

theorem Reached.attach {config : Config} {start draft : Draft} {events : List Event}
    (h : Reached config start events draft) (credential : LinkedCredential) (g : Generator) :
    Reached config start (.changeReference (some credential.record) :: events)
      (draft.withIdentity
        (draft.connection.identity.attach (some credential) draft.editing g).1) :=
  h.step (apply_attach config draft credential g)

theorem Reached.regenerate {config : Config} {start draft : Draft} {events : List Event}
    (h : Reached config start events draft) {field : String} {identity : Identity} (g : Generator)
    (hdrawn : (draft.connection.identity.regenerate field g).1 = .ok identity) :
    Reached config start (.regenerate (.str field) :: events) (draft.withIdentity identity) := by
  refine h.step (g := g) ?_
  simp only [apply, Draft.regenerate, Json.shown_str, hdrawn]
  rfl

theorem Reached.selectTransport {config : Config} {start draft : Draft} {events : List Event}
    (h : Reached config start events draft) {value : Json} {transport : Transport}
    (htransport : Transport.ofJson value = .ok transport)
    (hport : derivable transport draft.endpoints = true) (g : Generator) :
    Reached config start (.selectTransport value :: events) (draft.transported config transport) := by
  refine h.step (g := g) ?_
  simp only [apply, htransport]
  rw [selectTransport_eq_ite, if_pos hport]

theorem Reached.loadSettings {config : Config} {start draft : Draft} {events : List Event}
    (h : Reached config start events draft) {settings : Option ConnectivitySettings}
    (hport : draft.loadable config settings = true) (g : Generator) :
    Reached config start (.loadSettings settings :: events) (draft.loaded config settings) := by
  refine h.step (g := g) ?_
  rw [apply, loadSettings_eq_ite, if_pos hport]

/-- A property of drafts that every step keeps holds of every draft that is reached from one with it. -/
theorem Reached.induct {config : Config} {start draft : Draft} {events : List Event} {P : Draft → Prop}
    (h : Reached config start events draft) (hstart : P start)
    (hkeep : ∀ draft event next, P draft → Becomes config draft event next → P next) : P draft := by
  induction h with
  | refl => exact hstart
  | step _ happly ih => exact hkeep _ _ _ ih (becomes_of_apply happly)

theorem Reached.editing_eq {config : Config} {start draft : Draft} {events : List Event}
    (h : Reached config start events draft) : draft.editing = start.editing :=
  h.induct (P := fun reached => reached.editing = start.editing) rfl fun _ _ _ ih hstep =>
    hstep.editing_eq.trans ih

end Draft

/-! ## Identities -/

/-- Whether an event leaves the identity of every draft alone. -/
def Event.sparesIdentity : Event → Bool
  | .selectMode _ | .changeReference _ | .regenerate _ => false
  | .editConnection name _ => name == .str "url"
  | _ => true

namespace Identity

/-- The identity with a field of the connection step edited. -/
def edited (identity : Identity) (field : ConnectionField) (value : Json) : Identity :=
  match field with
  | .name | .rejectUnauthorized => identity
  | .credentialsName =>
    { identity with credentialsName := Draft.editOpen identity.credentialsName value }
  | .clientId => { identity with clientId := Draft.editOpen identity.clientId value }
  | .username => { identity with username := Draft.editOpen identity.username value }
  | .password => { identity with password := Draft.editOpen identity.password value }

/-- What an event that succeeds does to the identity of a draft. -/
inductive Change (editing : Option Profile) (identity : Identity) : Event → Identity → Prop
  | select {value : Json} {mode : CredentialMode} (g : Generator)
      (h : CredentialMode.ofJson value = .ok mode) :
      Change editing identity (.selectMode value) (identity.selectMode mode editing g).1
  | detach (g : Generator) :
      Change editing identity (.changeReference none) (identity.attach none editing g).1
  | attach {reference : CredentialReference} {credential : LinkedCredential} (g : Generator)
      (h : reference.link = .ok credential) :
      Change editing identity (.changeReference (some reference))
        (identity.attach (some credential) editing g).1
  | edit {name value : Json} {field : ConnectionField} (h : ConnectionField.ofJson? name = some field) :
      Change editing identity (.editConnection name value) (identity.edited field value)
  | regenerate {field : Json} {name : String} {next : Identity} (g : Generator)
      (hname : field.shown = .ok name) (h : (identity.regenerate name g).1 = .ok next) :
      Change editing identity (.regenerate field) next
  | keep {event : Event} (h : event.sparesIdentity = true) : Change editing identity event identity

end Identity

/-- A step changes the identity of a draft as its event says, whatever the rest of the draft is. -/
theorem Draft.Becomes.identity {config : Config} {draft next : Draft} {event : Event}
    (h : Draft.Becomes config draft event next) :
    Identity.Change draft.editing draft.connection.identity event next.connection.identity := by
  cases h with
  | selectMode g h => exact .select g h
  | detach g => exact .detach g
  | attach g h => exact .attach g h
  | @editConnection _ value field h =>
    -- the name and the flag of the connection step are no part of the identity
    have hedit : (draft.editConnectionField field value).connection.identity
        = draft.connection.identity.edited field value := by
      cases field <;> rfl
    rw [hedit]
    exact .edit h
  | editAdvanced _ hedit =>
    rw [eq_with_advanced_of_edit hedit]
    exact .keep rfl
  | loadSettings _ =>
    rw [Draft.loaded]
    split <;> exact .keep rfl
  | regenerate g hname h => exact .regenerate g hname h
  | editUrlField url => exact .keep (beq_self_eq_true _)
  | initialise | changeVersion _ | selectTransport _ _ | editUrl _ | editLastWill _
  | editUserProperties _ => exact .keep rfl

end MqttProfile
