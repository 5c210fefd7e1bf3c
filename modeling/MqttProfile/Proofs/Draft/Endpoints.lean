import MqttProfile.Proofs.Draft.Address
import MqttProfile.Service.Collaborators

/-!
# Endpoints over a flow

Settings are loaded any number of times in a flow, by an event or from a source, and a source may fail or have
none.  A load takes over what the settings advertise and leaves the rest as it was, one transport apart from the
other; one that fails, because the address that should follow cannot be derived, takes over nothing.  So the
endpoint of a transport is the one that was advertised last by settings that were loaded, whatever was loaded
since without advertising one.

* `ConnectivitySettings.Advertises` says which endpoint settings have for a transport, if they have any;
* `loadedAll` lists the settings that are loaded along a run, and `get_endpoints_attemptAll` finds the endpoint of
  a transport there;
* `moveAll` tries events and asks sources in a world, and `moveAll_eq_attemptAll` says that this comes to a run of
  events, those of the settings that the sources had;
* `endpoints_follow_settings` puts this together for every flow.
-/

namespace MqttProfile

/-! ## What settings advertise -/

namespace ConnectivitySettings

/-- What settings hold on a transport. -/
def info (settings : ConnectivitySettings) : Transport → Advertised
  | .plain => settings.plain
  | .secure => settings.secure

/-- Settings advertise an endpoint for a transport that is enabled, with a host that is not empty and a port. -/
structure Advertises (settings : ConnectivitySettings) (transport : Transport) (endpoint : Endpoint) : Prop where
  enabled : (settings.info transport).enabled = true
  host_ne_empty : (settings.info transport).host ≠ ""
  host : endpoint.host = (settings.info transport).host
  port : (settings.info transport).port = some endpoint.port

/-- The endpoint that is found is the one that is advertised. -/
theorem endpoint?_eq_some_iff (settings : ConnectivitySettings) (transport : Transport) (endpoint : Endpoint) :
    settings.endpoint? transport = some endpoint ↔ settings.Advertises transport endpoint := by
  have hinfo : settings.endpoint? transport = (settings.info transport).endpoint? := by
    cases transport <;> rfl
  rw [hinfo, Advertised.endpoint?]
  constructor
  · intro hfound
    split at hfound
    · rename_i port hport
      split at hfound
      · rename_i husable
        rw [Bool.and_eq_true, Bool.not_eq_true', String.isEmpty_eq_false_iff] at husable
        cases hfound
        exact ⟨husable.1, husable.2, rfl, hport⟩
      · cases hfound
    · cases hfound
  · rintro ⟨henabled, hhost, hsame, hport⟩
    have husable : ((settings.info transport).enabled && !(settings.info transport).host.isEmpty) = true := by
      rw [Bool.and_eq_true, Bool.not_eq_true', String.isEmpty_eq_false_iff]
      exact ⟨henabled, hhost⟩
    rw [hport]
    dsimp only
    rw [if_pos husable, ← hsame]

theorem endpoint?_eq_none_iff (settings : ConnectivitySettings) (transport : Transport) :
    settings.endpoint? transport = none ↔ ∀ endpoint, ¬ settings.Advertises transport endpoint := by
  rw [Option.eq_none_iff_forall_ne_some]
  exact forall_congr' fun endpoint => not_congr (endpoint?_eq_some_iff settings transport endpoint)

theorem Advertises.unique {settings : ConnectivitySettings} {transport : Transport} {endpoint other : Endpoint}
    (h : settings.Advertises transport endpoint) (hother : settings.Advertises transport other) :
    endpoint = other := by
  rw [← endpoint?_eq_some_iff] at h hother
  exact Option.some.inj (h.symm.trans hother)

end ConnectivitySettings

theorem Endpoints.get_merge (endpoints : Endpoints) (settings : Option ConnectivitySettings)
    (transport : Transport) :
    (endpoints.merge settings).get transport
      = (settings.bind (·.endpoint? transport)).getD (endpoints.get transport) := by
  cases settings with
  | none => rfl
  | some settings => cases transport <;> rfl

namespace Draft

/-! ## Histories -/

/-- The settings that an event loads into a draft: none if they cannot be loaded. -/
def loaded? (config : Config) (draft : Draft) : Event → Option ConnectivitySettings
  | .loadSettings settings => if draft.loadable config settings then settings else none
  | _ => none

/-- The settings that are loaded along a run, the latest first. -/
def loadedAll (config : Config) (events : List Event) (draft : Draft) (g : Generator) :
    List ConnectivitySettings :=
  match events with
  | [] => []
  | event :: events =>
    let next := draft.attempt config event g
    next.1.loadedAll config events next.2 ++ (draft.loaded? config event).toList

/-- Trying an event takes over what it loads, and nothing else. -/
theorem endpoints_attempt (config : Config) (event : Event) (draft : Draft) (g : Generator) :
    (draft.attempt config event g).1.endpoints = draft.endpoints.merge (draft.loaded? config event) := by
  cases happly : (draft.apply config event g).1 with
  | ok next =>
    rw [attempt_of_ok happly]
    cases becomes_of_apply happly with
    | loadSettings hport =>
      rw [loaded?, if_pos hport, loaded]
      split <;> rfl
    | @editConnection _ _ field _ => cases field <;> rfl
    | editAdvanced _ hedit =>
      rw [eq_with_advanced_of_edit hedit]
      rfl
    | _ => rfl
  | error error =>
    rw [attempt_of_error happly]
    cases event with
    | loadSettings settings =>
      rw [apply, loadSettings_eq_ite] at happly
      rw [loaded?]
      split
      · rename_i hport
        rw [if_pos hport] at happly
        cases happly
      · rfl
    | _ => rfl

/-- After a run the endpoint of a transport is the one that was advertised last by loaded settings, if one was. -/
theorem get_endpoints_attemptAll (config : Config) (events : List Event) (draft : Draft) (g : Generator)
    (transport : Transport) :
    (draft.attemptAll config events g).1.endpoints.get transport
      = ((draft.loadedAll config events g).findSome? (·.endpoint? transport)).getD
          (draft.endpoints.get transport) := by
  induction events generalizing draft g with
  | nil => rfl
  | cons event events ih =>
    -- what the first event loads is looked for last
    have hfirst : (draft.loaded? config event).toList.findSome? (·.endpoint? transport)
        = (draft.loaded? config event).bind (·.endpoint? transport) := by
      cases draft.loaded? config event with
      | none => rfl
      | some settings => exact List.findSome?_singleton
    rw [loadedAll, List.findSome?_append, Option.getD_or, hfirst, ← Endpoints.get_merge, ← endpoints_attempt]
    exact ih _ _

/-- A flow begins with the endpoints of the configuration. -/
theorem Begun.endpoints_eq {config : Config} {start : Draft} (h : Begun config start) :
    start.endpoints = config.defaultEndpoints := by
  cases h with
  | fresh h =>
    obtain ⟨name, -, -, rfl⟩ := new_ok h
    rfl
  | edited h =>
    obtain ⟨transport, lastWill, -, -, rfl⟩ := ofProfile_ok h
    rfl

/-! ## Sources -/

section Sources

variable {σ : Type}

/-- A source that fails leaves the draft as it is. -/
theorem loadFrom_of_error (config : Config) {source : SettingsSource σ} (draft : Draft) {world : σ}
    {error : Error} (h : (source.fetch world).1 = .error error) :
    draft.loadFrom config source world = (.ok draft, (source.fetch world).2) := by
  rw [loadFrom]
  cases hfetch : source.fetch world with
  | mk outcome world' =>
    rw [hfetch] at h
    cases h
    rfl

/-- The settings of a source that has some are loaded. -/
theorem loadFrom_of_ok (config : Config) {source : SettingsSource σ} (draft : Draft) {world : σ}
    {settings : Option ConnectivitySettings} (h : (source.fetch world).1 = .ok settings) :
    draft.loadFrom config source world = (draft.loadSettings config settings, (source.fetch world).2) := by
  rw [loadFrom]
  cases hfetch : source.fetch world with
  | mk outcome world' =>
    rw [hfetch] at h
    cases h
    rfl

/-- What happens in a flow: an event is tried, or a source is asked for settings, which are then loaded. -/
inductive Move (σ : Type) where
  | attempt (event : Event)
  | load (source : SettingsSource σ)

/-- The events that moves come to in a world: asking a source comes to loading the settings that it has, and to
nothing if it fails. -/
def Move.events : List (Move σ) → σ → List Event
  | [], _ => []
  | .attempt event :: moves, world => event :: events moves world
  | .load source :: moves, world =>
    match source.fetch world with
    | (.ok settings, world) => .loadSettings settings :: events moves world
    | (.error _, world) => events moves world

/-- Makes moves one after the other, in a world that the sources work in.  A move that fails leaves the draft as
it was. -/
def moveAll (config : Config) (moves : List (Move σ)) (draft : Draft) (g : Generator) (world : σ) :
    Draft × Generator × σ :=
  match moves with
  | [] => (draft, g, world)
  | .attempt event :: moves =>
    let (draft, g) := draft.attempt config event g
    draft.moveAll config moves g world
  | .load source :: moves =>
    match draft.loadFrom config source world with
    | (.ok next, world) => next.moveAll config moves g world
    | (.error _, world) => draft.moveAll config moves g world

/-- Moves lead to the draft that the events lead to to which they come. -/
theorem moveAll_eq_attemptAll (config : Config) (moves : List (Move σ)) (draft : Draft) (g : Generator)
    (world : σ) :
    (draft.moveAll config moves g world).1 = (draft.attemptAll config (Move.events moves world) g).1 := by
  induction moves generalizing draft g world with
  | nil => rfl
  | cons move moves ih =>
    cases move with
    | attempt event =>
      rw [moveAll, Move.events, attemptAll]
      exact ih _ _ _
    | load source =>
      rw [moveAll, Move.events]
      cases hfetch : source.fetch world with
      | mk outcome world' =>
        cases outcome with
        | error error =>
          rw [loadFrom_of_error config draft (congrArg Prod.fst hfetch), hfetch]
          exact ih _ _ _
        | ok settings =>
          rw [loadFrom_of_ok config draft (congrArg Prod.fst hfetch), hfetch]
          dsimp only
          rw [attemptAll, attempt, apply]
          cases draft.loadSettings config settings <;> exact ih _ _ _

/-- The settings that are loaded by moves, the latest first. -/
def loadedBy (config : Config) (moves : List (Move σ)) (draft : Draft) (g : Generator) (world : σ) :
    List ConnectivitySettings :=
  draft.loadedAll config (Move.events moves world) g

/-- In every flow, whatever events are tried and whatever sources are asked, the endpoint of each transport is the
one that was advertised for it by the last of the loaded settings that advertise one for it, or else that of the
configuration.  A source that fails leaves the draft as it is.  Settings that a source has are loaded, unless an
address has to be derived from them for which the port cannot be written: then that fails, and the draft is left
as it is. -/
theorem endpoints_follow_settings (config : Config) (start : Draft) (hstart : Begun config start)
    (moves : List (Move σ)) (g : Generator) (world : σ) :
    let draft := (start.moveAll config moves g world).1
    let loaded := start.loadedBy config moves g world
    (∀ transport,
        (∃ later settings earlier, loaded = later ++ settings :: earlier
            ∧ settings.Advertises transport (draft.endpoints.get transport)
            ∧ ∀ other ∈ later, ∀ endpoint, ¬ other.Advertises transport endpoint)
          ∨ (∀ settings ∈ loaded, ∀ endpoint, ¬ settings.Advertises transport endpoint)
            ∧ draft.endpoints.get transport = config.defaultEndpoints.get transport)
      ∧ ∀ (source : SettingsSource σ) (now : σ),
        (∀ error, (source.fetch now).1 = .error error → (draft.loadFrom config source now).1 = .ok draft)
          ∧ ∀ settings, (source.fetch now).1 = .ok settings →
            (draft.loadFrom config source now).1
                = (if draft.loadable config settings then .ok (draft.loaded config settings)
                    else .error (.fault .badValue))
              ∧ ∀ g, draft.apply config (.loadSettings settings) g
                = ((draft.loadFrom config source now).1, g) := by
  intro draft loaded
  refine ⟨fun transport => ?_, fun source now => ⟨fun error hfails => ?_, fun settings hfetched => ?_⟩⟩
  · have hget : draft.endpoints.get transport
        = (loaded.findSome? (·.endpoint? transport)).getD (config.defaultEndpoints.get transport) := by
      rw [← hstart.endpoints_eq]
      exact (congrArg (·.endpoints.get transport) (moveAll_eq_attemptAll config moves start g world)).trans
        (get_endpoints_attemptAll config (Move.events moves world) start g transport)
    cases hfound : loaded.findSome? (·.endpoint? transport) with
    | some endpoint =>
      rw [hfound, Option.getD_some] at hget
      obtain ⟨later, settings, earlier, hsplit, hsettings, hlater⟩ := List.findSome?_eq_some_iff.mp hfound
      refine .inl ⟨later, settings, earlier, hsplit, ?_, fun other hother => ?_⟩
      · rw [hget]
        exact (settings.endpoint?_eq_some_iff transport endpoint).mp hsettings
      · exact (other.endpoint?_eq_none_iff transport).mp (hlater other hother)
    | none =>
      rw [hfound, Option.getD_none] at hget
      refine .inr ⟨fun settings hsettings => ?_, hget⟩
      exact (settings.endpoint?_eq_none_iff transport).mp (List.findSome?_eq_none_iff.mp hfound settings hsettings)
  · rw [loadFrom_of_error config draft hfails]
  · rw [loadFrom_of_ok config draft hfetched]
    exact ⟨loadSettings_eq_ite config draft settings, fun _ => rfl⟩

end Sources

/-- A broker for plain connections, and a port for secured ones without a host. -/
def halfBroker : ConnectivitySettings :=
  ⟨⟨true, "broker.example", some 1883⟩, ⟨true, "", some 8883⟩⟩

/-- A broker that is switched off, and a host for secured connections without a port. -/
def noBroker : ConnectivitySettings :=
  ⟨⟨false, "other.example", some 1884⟩, ⟨true, "other.example", none⟩⟩

/-- A broker that was advertised once stays, though a service then fails, has nothing and cannot be reached, and
other settings advertise none; secured connections keep the endpoint of the configuration. -/
theorem half_broker_followed :
    let service := Network.settingsSource .standard
    let network : Network := ⟨[.answer 503 "", .answer 200 "", .unreachable "timed out"], []⟩
    let moves := [Move.load (.constant (some halfBroker)), .load service, .attempt (.selectTransport (.str "wss")),
      .load service, .load (.constant none), .load (.constant (some noBroker)), .load service]
    let draft := ((first (.ofStep 0 7)).moveAll Config.standard moves (.ofStep 0 7) network).1
    Begun Config.standard (first (.ofStep 0 7))
      ∧ draft.endpoints.get .plain = ⟨"broker.example", 1883⟩
      ∧ draft.endpoints.get .secure = ⟨"localhost", 8085⟩
      ∧ (draft.loadFrom Config.standard service ⟨[], []⟩).1 = .ok draft := by
  intro service network moves draft
  have hbegun : Begun Config.standard (first (.ofStep 0 7)) := begun_first _
  have hloaded : (first (.ofStep 0 7)).loadedBy Config.standard moves (.ofStep 0 7) network
      = [noBroker, ⟨.nothing, .nothing⟩, halfBroker] := by decide +kernel
  obtain ⟨hfollow, hloads⟩ := endpoints_follow_settings Config.standard _ hbegun moves (.ofStep 0 7) network
  rw [hloaded] at hfollow
  have hbroker : halfBroker.Advertises .plain ⟨"broker.example", 1883⟩ := ⟨rfl, by decide, rfl, rfl⟩
  have hone {later earlier : List ConnectivitySettings} {settings : ConnectivitySettings}
      (hsplit : [noBroker, ⟨.nothing, .nothing⟩, halfBroker] = later ++ settings :: earlier) :
      settings = noBroker ∨ settings = ⟨.nothing, .nothing⟩ ∨ settings = halfBroker := by
    have hmem : settings ∈ later ++ settings :: earlier := List.mem_append_cons_self
    simpa [← hsplit] using hmem
  refine ⟨hbegun, ?_, ?_, (hloads service ⟨[], []⟩).1 _ rfl⟩
  · rcases hfollow .plain with ⟨later, settings, earlier, hsplit, hadvertised, -⟩ | ⟨hnone, -⟩
    · obtain rfl | rfl | rfl := hone hsplit
      · exact absurd hadvertised.enabled (by decide)
      · exact absurd hadvertised.enabled (by decide)
      · exact hadvertised.unique hbroker
    · exact absurd hbroker (hnone halfBroker (by simp) _)
  · rcases hfollow .secure with ⟨later, settings, earlier, hsplit, hadvertised, -⟩ | ⟨-, hdefault⟩
    · obtain rfl | rfl | rfl := hone hsplit
      · cases hadvertised.port
      · exact absurd hadvertised.enabled (by decide)
      · exact absurd rfl hadvertised.host_ne_empty
    · exact hdefault

/-- Settings that advertise a port with too many digits for plain connections are not loaded into a draft that
starts afresh: that fails, although the source has them. -/
theorem long_port_not_loaded :
    let settings : ConnectivitySettings := ⟨⟨true, "broker.example", some (Nat.pow 10 Text.digitLimit)⟩, .nothing⟩
    let g : Generator := .ofStep 0 7
    Begun Config.standard (first g)
      ∧ settings.Advertises .plain ⟨"broker.example", Nat.pow 10 Text.digitLimit⟩
      ∧ ((first g).loadFrom Config.standard (.constant (some settings)) ()).1 = .error (.fault .badValue) := by
  intro settings g
  have hport : derivable .plain ((first g).endpoints.merge (some settings)) = false :=
    Text.not_writable_pow
  have hloadable : (first g).loadable Config.standard (some settings) = false := hport
  refine ⟨begun_first g, ⟨rfl, by decide, rfl, rfl⟩, ?_⟩
  rw [loadFrom_of_ok Config.standard (first g) rfl, loadSettings_eq_ite, hloadable, if_neg Bool.false_ne_true]

end Draft

end MqttProfile
