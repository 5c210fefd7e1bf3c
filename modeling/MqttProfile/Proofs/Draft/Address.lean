import MqttProfile.Proofs.Draft.Reached

/-!
# Where the address of a draft comes from

An address is typed, or it is derived from the endpoint of the selected transport.  Selecting a transport
derives it, and so does a load of settings in the flows for which the configuration says so; in the other
flows a load changes the endpoints only.  So an address that was not typed since is never stale: it is the
one of the transport and of the endpoints that were known when it was last derived.

* `Event.lastTyped`, `Event.lastSelected` and `Event.endpointsAfter` are the history of a run as far as the
  address is concerned, the latest event first;
* `Becomes.address` says what one step does to the address, the transport and the endpoints;
* `Reached.addressed` carries this along a run: all three follow from the history.
-/

namespace MqttProfile

/-! ## Histories -/

namespace Event

/-- The address that an event types, if it types one. -/
def typedUrl? : Event → Option Json
  | .editUrl url => some url
  | .editConnection name url => if name = .str "url" then some url else none
  | _ => none

/-- The transport that an event selects, if it selects one. -/
def selected? : Event → Option Transport
  | .selectTransport value => (Transport.ofJson value).toOption
  | _ => none

/-- The endpoints that are known after an event. -/
def takenOver (known : Endpoints) : Event → Endpoints
  | .loadSettings settings => known.merge settings
  | _ => known

/-- Whether an event derives the address, where loads of settings do so or do not. -/
def derivesUrl (reloads : Bool) : Event → Bool
  | .selectTransport _ => true
  | .loadSettings _ => reloads
  | _ => false

/-- Whether an event has nothing to do with the address. -/
def sparesUrl : Event → Bool
  | .selectTransport _ | .loadSettings _ | .editUrl _ => false
  | .editConnection name _ => name != .str "url"
  | _ => true

/-- Such an event leaves the transport and the endpoints alone, and neither derives nor types an address. -/
theorem writes_nothing_of_spares {event : Event} (h : event.sparesUrl = true) :
    event.selected? = none ∧ (∀ known, event.takenOver known = known)
      ∧ (∀ reloads, event.derivesUrl reloads = false) ∧ event.typedUrl? = none := by
  cases event with
  | selectTransport _ | loadSettings _ | editUrl _ => cases h
  | editConnection name _ => exact ⟨rfl, fun _ => rfl, fun _ => rfl, if_neg (bne_iff_ne.mp h)⟩
  | _ => exact ⟨rfl, fun _ => rfl, fun _ => rfl, rfl⟩

/-- The address that was typed since one was last derived, if one was.  Before the first event the given
one counts as typed. -/
def lastTyped (reloads : Bool) (given : Option Json) : List Event → Option Json
  | [] => given
  | event :: earlier =>
    if event.derivesUrl reloads then none else event.typedUrl?.or (lastTyped reloads given earlier)

/-- The transport that was last selected, or else the first one. -/
def lastSelected (first : Transport) (events : List Event) : Transport :=
  (events.findSome? selected?).getD first

/-- The endpoints that are known after events: each load of settings is taken over. -/
def endpointsAfter (first : Endpoints) (events : List Event) : Endpoints :=
  events.foldr (fun event known => event.takenOver known) first

/-- The endpoints that were known when the address was last derived. -/
def endpointsDerived (reloads : Bool) (first : Endpoints) (events : List Event) : Endpoints :=
  endpointsAfter first (events.dropWhile fun event => !event.derivesUrl reloads)

/-- Where each load of settings derives the address, it was derived from the endpoints that are known. -/
theorem endpointsDerived_of_reloads (first : Endpoints) (events : List Event) :
    endpointsDerived true first events = endpointsAfter first events := by
  induction events with
  | nil => rfl
  | cons event events ih =>
    rw [endpointsDerived, List.dropWhile_cons]
    cases hderives : event.derivesUrl true with
    | true => rfl
    | false =>
      -- an event that derives nothing loads nothing either
      have hsame : ∀ known, event.takenOver known = known := by
        intro known
        cases event with
        | loadSettings _ => cases hderives
        | _ => rfl
      show endpointsDerived true first events = event.takenOver (endpointsAfter first events)
      rw [hsame, ih]

end Event

namespace Draft

/-! ## Steps -/

/-- What a step leaves of the address, of the transport and of the endpoints. -/
structure KeepsAddress (config : Config) (draft : Draft) (event : Event) (next : Draft) : Prop where
  transport : next.connection.transport = event.selected?.getD draft.connection.transport
  endpoints : next.endpoints = event.takenOver draft.endpoints
  url : next.connection.url.value
    = if event.derivesUrl (draft.reloadsUrl config) then
        derivedUrl config next.connection.transport next.endpoints
      else event.typedUrl?.getD draft.connection.url.value
  derivable : event.derivesUrl (draft.reloadsUrl config) = true →
    Draft.derivable next.connection.transport next.endpoints = true

/-- An event that has nothing to do with the address neither types nor derives one. -/
theorem KeepsAddress.of_spares {config : Config} {draft next : Draft} {event : Event}
    (h : event.sparesUrl = true) (htransport : next.connection.transport = draft.connection.transport)
    (hendpoints : next.endpoints = draft.endpoints)
    (hurl : next.connection.url.value = draft.connection.url.value) :
    KeepsAddress config draft event next := by
  obtain ⟨hselected, htaken, hderives, htyped⟩ := Event.writes_nothing_of_spares h
  constructor
  · rw [hselected, htransport]
    rfl
  · rw [htaken, hendpoints]
  · rw [hderives, htyped, if_neg Bool.false_ne_true, hurl]
    rfl
  · intro hderived
    rw [hderives] at hderived
    cases hderived

/-- Every step does to the address what its event says. -/
theorem Becomes.address {config : Config} {draft next : Draft} {event : Event}
    (h : Becomes config draft event next) : KeepsAddress config draft event next := by
  cases h with
  | @selectTransport value transport htransport hport =>
    have hselected : (Event.selectTransport value).selected? = some transport := by
      rw [Event.selected?, htransport]
      rfl
    refine ⟨?_, rfl, rfl, fun _ => hport⟩
    rw [hselected]
    rfl
  | loadSettings hport =>
    rw [loadable] at hport
    rw [loaded]
    split
    · rename_i hreloads
      rw [hreloads] at hport
      refine ⟨rfl, rfl, ?_, fun _ => hport⟩
      rw [Event.derivesUrl, if_pos hreloads]
      rfl
    · rename_i hreloads
      refine ⟨rfl, rfl, ?_, fun hderived => absurd hderived hreloads⟩
      rw [Event.derivesUrl, if_neg hreloads]
      rfl
  | editUrl url => exact ⟨rfl, rfl, rfl, fun hderived => absurd hderived Bool.false_ne_true⟩
  | editUrlField url => exact ⟨rfl, rfl, rfl, fun hderived => absurd hderived Bool.false_ne_true⟩
  | @editConnection name _ field hfield =>
    have hspares : name ≠ .str "url" := by
      rintro rfl
      cases hfield
    cases field <;> exact .of_spares (bne_iff_ne.mpr hspares) rfl rfl rfl
  | editAdvanced _ hedit =>
    rw [eq_with_advanced_of_edit hedit]
    exact .of_spares rfl rfl rfl rfl
  | _ => exact .of_spares rfl rfl rfl rfl

/-! ## Runs -/

/-- What counts as typed before the first event: the address of the edited profile. -/
def givenUrl (draft : Draft) : Option Json :=
  draft.editing.map (·.configuration.url)

/-- The address of a draft, its transport and its endpoints, as they follow from the events since its flow
began. -/
structure Addressed (config : Config) (start : Draft) (events : List Event) (draft : Draft) : Prop where
  transport : draft.connection.transport = Event.lastSelected start.connection.transport events
  endpoints : draft.endpoints = Event.endpointsAfter start.endpoints events
  url : draft.connection.url.value
    = (Event.lastTyped (start.reloadsUrl config) start.givenUrl events).getD
        (derivedUrl config draft.connection.transport
          (Event.endpointsDerived (start.reloadsUrl config) start.endpoints events))
  derivable : Event.lastTyped (start.reloadsUrl config) start.givenUrl events = none →
    Draft.derivable draft.connection.transport
      (Event.endpointsDerived (start.reloadsUrl config) start.endpoints events) = true

/-- An address that was not typed since was derived. -/
theorem Addressed.typed_or_derived {config : Config} {start draft : Draft} {events : List Event}
    (h : Addressed config start events draft) :
    Event.lastTyped (start.reloadsUrl config) start.givenUrl events = some draft.connection.url.value
      ∨ Event.lastTyped (start.reloadsUrl config) start.givenUrl events = none
        ∧ deriveUrl config draft.connection.transport
            (Event.endpointsDerived (start.reloadsUrl config) start.endpoints events)
          = .ok draft.connection.url.value := by
  cases htyped : Event.lastTyped (start.reloadsUrl config) start.givenUrl events with
  | some url =>
    rw [h.url, htyped]
    exact .inl rfl
  | none =>
    rw [h.url, htyped, deriveUrl_eq_ite, h.derivable htyped]
    exact .inr ⟨rfl, rfl⟩

/-- A flow begins with an address that is derived, or with that of the edited profile. -/
theorem Begun.addressed {config : Config} {start : Draft} (h : Begun config start) :
    Addressed config start [] start := by
  cases h with
  | fresh h =>
    obtain ⟨name, -, hport, rfl⟩ := new_ok h
    exact ⟨rfl, rfl, rfl, fun _ => hport⟩
  | edited h =>
    obtain ⟨transport, lastWill, -, -, rfl⟩ := ofProfile_ok h
    exact ⟨rfl, rfl, rfl, (nomatch ·)⟩

/-- A step adds its event to the history. -/
theorem Addressed.becomes {config : Config} {start draft next : Draft} {events : List Event}
    {event : Event} (h : Addressed config start events draft) (hediting : draft.editing = start.editing)
    (hstep : Becomes config draft event next) : Addressed config start (event :: events) next := by
  obtain ⟨htransport, hendpoints, hurl, hport⟩ := hstep.address
  have hreloads : draft.reloadsUrl config = start.reloadsUrl config := by
    rw [reloadsUrl, hediting, reloadsUrl]
  rw [hreloads] at hurl hport
  have hknown : next.endpoints = Event.endpointsAfter start.endpoints (event :: events) := by
    rw [hendpoints, h.endpoints]
    rfl
  have hselected : next.connection.transport
      = Event.lastSelected start.connection.transport (event :: events) := by
    rw [htransport, h.transport, Event.lastSelected, Event.lastSelected, List.findSome?_cons]
    cases event.selected? <;> rfl
  cases hderives : event.derivesUrl (start.reloadsUrl config) with
  | true =>
    have hnow : Event.endpointsDerived (start.reloadsUrl config) start.endpoints (event :: events)
        = next.endpoints := by
      rw [hknown, Event.endpointsDerived, List.dropWhile_cons, hderives]
      rfl
    refine ⟨hselected, hknown, ?_, fun _ => ?_⟩
    · rw [hurl, hderives, Event.lastTyped, if_pos hderives, hnow]
      rfl
    · rw [hnow]
      exact hport hderives
  | false =>
    have hthen : Event.endpointsDerived (start.reloadsUrl config) start.endpoints (event :: events)
        = Event.endpointsDerived (start.reloadsUrl config) start.endpoints events := by
      rw [Event.endpointsDerived, List.dropWhile_cons, hderives]
      rfl
    have hlast : Event.lastTyped (start.reloadsUrl config) start.givenUrl (event :: events)
        = event.typedUrl?.or (Event.lastTyped (start.reloadsUrl config) start.givenUrl events) := by
      rw [Event.lastTyped, hderives, if_neg Bool.false_ne_true]
    -- what derives no address selects no transport, so the transport is still the one of the address
    have hsame : next.connection.transport = draft.connection.transport := by
      rw [htransport]
      cases event with
      | selectTransport _ => cases hderives
      | _ => rfl
    refine ⟨hselected, hknown, ?_, fun huntyped => ?_⟩
    · rw [hurl, hderives, if_neg Bool.false_ne_true, hlast, hthen, hsame]
      cases event.typedUrl? with
      | some url => rfl
      | none => exact h.url
    · rw [hlast, Option.or_eq_none_iff] at huntyped
      rw [hthen, hsame]
      exact h.derivable huntyped.2

/-- The address of every reached draft follows from the events since its flow began. -/
theorem Reached.addressed {config : Config} {start draft : Draft} {events : List Event}
    (h : Reached config start events draft) (hstart : Begun config start) :
    Addressed config start events draft := by
  induction h with
  | refl => exact hstart.addressed
  | step before happly ih => exact ih.becomes before.editing_eq (becomes_of_apply happly)

/-- Loads derive the address in all flows, in those that start afresh or in none. -/
theorem reloadsUrl_iff (config : Config) (draft : Draft) :
    draft.reloadsUrl config = true
      ↔ config.rederive = .always ∨ config.rederive = .create ∧ draft.editing = none := by
  rw [reloadsUrl]
  cases config.rederive with
  | create =>
    show (!draft.editing.isSome) = true ↔ _
    rw [Bool.not_eq_true', Option.isSome_eq_false_iff, Option.isNone_iff_eq_none]
    exact ⟨fun hnone => .inr ⟨rfl, hnone⟩, fun hcreate => (hcreate.resolve_left (nomatch ·)).2⟩
  | always => exact iff_of_true rfl (.inl rfl)
  | never =>
    refine iff_of_false Bool.false_ne_true ?_
    rintro (hnever | ⟨hnever, -⟩) <;> cases hnever

/-- Where loads of settings derive the address, it is the one that was typed since it was last derived, or
else the one derived for the transport from the endpoints that the draft has now.  In the other flows a load
changes the endpoints and nothing else, and an address that was not typed since is the one derived for the
transport that was last selected from the endpoints that were known then.  Nothing else that is tried, whether
it succeeds or not, changes the address. -/
theorem address_typed_or_derived (config : Config) (start draft : Draft) (events : List Event)
    (hstart : Begun config start) (hreached : Reached config start events draft) :
    (config.rederive = .always ∨ config.rederive = .create ∧ start.editing = none →
        Event.lastTyped true start.givenUrl events = some draft.connection.url.value
          ∨ Event.lastTyped true start.givenUrl events = none
            ∧ deriveUrl config draft.connection.transport draft.endpoints
              = .ok draft.connection.url.value)
      ∧ (¬ (config.rederive = .always ∨ config.rederive = .create ∧ start.editing = none) →
        (Event.lastTyped false start.givenUrl events = some draft.connection.url.value
            ∨ Event.lastTyped false start.givenUrl events = none
              ∧ deriveUrl config (Event.lastSelected start.connection.transport events)
                  (Event.endpointsDerived false start.endpoints events)
                = .ok draft.connection.url.value)
          ∧ ∀ settings g, draft.apply config (.loadSettings settings) g
            = (.ok { draft with endpoints := draft.endpoints.merge settings }, g))
      ∧ ∀ event g, event.sparesUrl = true →
        (draft.attempt config event g).1.connection.url.value = draft.connection.url.value := by
  have haddressed := hreached.addressed hstart
  have hurl := haddressed.typed_or_derived
  rw [← reloadsUrl_iff]
  refine ⟨fun hreloads => ?_, fun hkeeps => ?_, fun event g hspares => ?_⟩
  · rw [hreloads, Event.endpointsDerived_of_reloads, ← haddressed.endpoints] at hurl
    exact hurl
  · rw [Bool.not_eq_true] at hkeeps
    constructor
    · rw [hkeeps, haddressed.transport] at hurl
      exact hurl
    · intro settings g
      have hsame : draft.reloadsUrl config = false := by
        rw [reloadsUrl, hreached.editing_eq]
        exact hkeeps
      rw [apply, loadSettings_eq_ite, loadable, loaded, hsame]
      rfl
  · cases happly : (draft.apply config event g).1 with
    | error error => rw [attempt_of_error happly]
    | ok next =>
      obtain ⟨-, -, hnext, -⟩ := (becomes_of_apply happly).address
      obtain ⟨-, -, hderives, htyped⟩ := Event.writes_nothing_of_spares hspares
      rw [attempt_of_ok happly, hnext, hderives, htyped, if_neg Bool.false_ne_true, Option.getD_none]

/-- Settings that advertise a broker for plain connections. -/
def brokerSettings : ConnectivitySettings :=
  ⟨⟨true, "broker.example", some 1883⟩, .nothing⟩

/-- An address that was typed is derived anew when the settings are loaded. -/
theorem address_of_broker :
    ∃ draft, Reached Config.standard (first (.ofStep 0 7))
        [.loadSettings (some brokerSettings), .editUrl (.str "ws://typed.example")] draft
      ∧ draft.connection.url.value = .str "ws://broker.example:1883/mqtt" := by
  let g : Generator := .ofStep 0 7
  have htyped : Reached Config.standard (first g) [.editUrl (.str "ws://typed.example")] _ :=
    Reached.refl.step (g := g) rfl
  have hloaded : Reached Config.standard (first g) (.loadSettings (some brokerSettings) :: _) _ :=
    htyped.loadSettings (by decide +kernel) g
  obtain ⟨haddress, -⟩ := address_typed_or_derived Config.standard (first g) _ _ (begun_first g) hloaded
  rcases haddress (.inr ⟨rfl, rfl⟩) with htyped | ⟨-, hderived⟩
  · cases htyped
  · rw [deriveUrl_eq_ite, if_pos (by decide +kernel), Except.ok.injEq] at hderived
    refine ⟨_, hloaded, hderived.symm.trans ?_⟩
    decide +kernel

end Draft

end MqttProfile
