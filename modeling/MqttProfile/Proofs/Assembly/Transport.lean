import MqttProfile.Proofs.Assembly.Outcome
import MqttProfile.Proofs.Draft.Address
import MqttProfile.Proofs.Draft.WellFormed
import MqttProfile.Proofs.LastWill
import MqttProfile.Proofs.Transport

/-!
# Transports of opened profiles

A profile does not store its transport: when it is opened the transport is told from its address.  A derived
address tells the transport it was derived for, unless the secured scheme hides in a host or in the path.  An
address that was typed may tell another one, for typing does not select a transport.

That the profile can be opened at all needs the last will, which is read back from its text.
-/

namespace MqttProfile

/-! ## Known hosts -/

namespace Event

/-- What holds of the first host for plain connections and of every loaded one holds of the one that is known
after events. -/
theorem plain_host_endpointsAfter {P : String → Prop} {first : Endpoints} {events : List Event}
    (hfirst : P first.plain.host)
    (hloaded : ∀ settings, .loadSettings (some settings) ∈ events → P settings.plain.host) :
    P (endpointsAfter first events).plain.host := by
  induction events with
  | nil => exact hfirst
  | cons event events ih =>
    have hknown := ih fun settings hmem => hloaded settings (List.mem_cons_of_mem event hmem)
    show P (event.takenOver (endpointsAfter first events)).plain.host
    cases event with
    | loadSettings settings? =>
      cases settings? with
      | none => exact hknown
      | some settings =>
        rw [takenOver, Endpoints.merge]
        cases hendpoint : settings.endpoint? .plain with
        | none => exact hknown
        | some endpoint =>
          -- what is advertised has the host of the settings
          rw [ConnectivitySettings.endpoint?, Advertised.endpoint?] at hendpoint
          split at hendpoint
          · split at hendpoint
            · cases hendpoint
              exact hloaded settings List.mem_cons_self
            · cases hendpoint
          · cases hendpoint
    | _ => exact hknown

/-- The same holds of the host that was known when the address was last derived. -/
theorem plain_host_endpointsDerived {P : String → Prop} (reloads : Bool) {first : Endpoints}
    {events : List Event} (hfirst : P first.plain.host)
    (hloaded : ∀ settings, .loadSettings (some settings) ∈ events → P settings.plain.host) :
    P (endpointsDerived reloads first events).plain.host :=
  plain_host_endpointsAfter hfirst fun settings hmem =>
    hloaded settings ((List.dropWhile_suffix _).subset hmem)

end Event

namespace Draft

variable {σ : Type}

/-- The last will that was stored for a draft can be opened again. -/
theorem exists_storedWill_merged {draft : Draft} (hencodable : draft.willEncodable = true)
    (intervals : Intervals) (reference? : Option CredentialReference) (user : Option String) (g : Generator) :
    ∃ lastWill, storedWill (draft.merged intervals reference? user g).configuration = .ok lastWill := by
  rw [merged_configuration, storedWill, configuration, willMessage?]
  rw [willEncodable] at hencodable
  cases hwill : draft.lastWill with
  | none => exact ⟨none, rfl⟩
  | some will =>
    rw [hwill] at hencodable
    rw [Option.bind_some]
    cases hmessage : will.trimmed.message? with
    | none => exact ⟨none, rfl⟩
    | some message =>
      obtain ⟨opened, hopen, -⟩ := LastWill.exists_open_message hencodable hmessage
      exact ⟨some opened, congrArg (Except.map some) hopen⟩

/-- A profile whose address was entered as a text is opened with the transport that the text tells. -/
theorem exists_opened_transport {store : CredentialStore σ} {user : Option String} {draft : Draft}
    {g g' : Generator} {world world' : σ} {assembly : Assembly} {url : String}
    (hurl : draft.connection.url.value = .str url)
    (hassemble : draft.assemble store user g world = (.ok assembly, g', world')) (config : Config)
    (pageIsSecure : Bool) (g'' : Generator) :
    ∃ reopened g₄, Draft.ofProfile config pageIsSecure assembly.profile g'' = (.ok reopened, g₄)
      ∧ reopened.connection.transport = .ofText url
      ∧ reopened.urlWarning = (Transport.ofText url).blockedOn pageIsSecure := by
  obtain ⟨intervals, reference?, -, -, hencodable, rfl, -⟩ :=
    (assemble_eq_ok_iff store user draft g g' world world' assembly).mp hassemble
  obtain ⟨lastWill, hwill⟩ := exists_storedWill_merged hencodable intervals reference? user g
  have htransport :
      Transport.ofUrl (draft.merged intervals reference? user g).configuration.url = .ok (.ofText url) := by
    rw [merged_configuration, configuration]
    dsimp only
    rw [hurl, Json.trimmed, Transport.ofUrl_str, Transport.ofText_trim]
  exact ⟨_, _, ofProfile_of_read config pageIsSecure g'' htransport hwill, rfl, rfl⟩

/-- An address that was not typed since it was last derived tells the transport of the draft. -/
theorem Addressed.ofText_eq {config : Config} {start draft : Draft} {events : List Event} {url : String}
    (h : Addressed config start events draft)
    (huntyped : Event.lastTyped (start.reloadsUrl config) start.givenUrl events = none)
    (hhost : ¬ Transport.HasSecureScheme start.endpoints.plain.host)
    (hpath : ¬ Transport.HasSecureScheme config.urlPath)
    (hloaded : ∀ settings, .loadSettings (some settings) ∈ events →
      ¬ Transport.HasSecureScheme settings.plain.host)
    (hurl : draft.connection.url.value = .str url) : Transport.ofText url = draft.connection.transport := by
  have hderived := h.url
  rw [huntyped, Option.getD_none, hurl, derivedUrl, Json.str.injEq] at hderived
  rw [hderived]
  refine Transport.ofText_url fun hplain => ⟨?_, hpath⟩
  rw [hplain]
  exact Event.plain_host_endpointsDerived (P := fun host => ¬ Transport.HasSecureScheme host) _ hhost
    hloaded

/-- A profile that was assembled from a new draft is opened with the secured transport exactly if its address
has the secured scheme.  This is the transport of the draft, with the same warning on the same page, as long
as the address was not typed since it was last derived, if no host and no path has the scheme in it; a typed
address tells the transport of the draft exactly if it has the scheme where the draft is secured. -/
theorem reopened_transport (config : Config) (pageIsSecure : Bool) (connections : Int) (g₀ : Generator)
    (events : List Event) (draft : Draft) (url : String) (store : CredentialStore σ) (user : Option String)
    (g₁ g₂ : Generator) (world world' : σ) (assembly : Assembly) (start : Draft)
    (hstart : (Draft.new config pageIsSecure connections g₀).1 = .ok start)
    (hreached : Reached config start events draft)
    (hhost : ¬ Transport.HasSecureScheme config.defaultHost)
    (hpath : ¬ Transport.HasSecureScheme config.urlPath)
    (hloaded : ∀ settings, .loadSettings (some settings) ∈ events →
      ¬ Transport.HasSecureScheme settings.plain.host)
    (hurl : draft.connection.url.value = .str url)
    (hassemble : draft.assemble store user g₁ world = (.ok assembly, g₂, world')) :
    ∀ (config' : Config) (g₃ : Generator), ∃ reopened g₄,
      Draft.ofProfile config' draft.pageIsSecure assembly.profile g₃ = (.ok reopened, g₄)
        ∧ (reopened.connection.transport = .secure ↔ Transport.HasSecureScheme url)
        ∧ (Event.lastTyped (config.rederive.applies false) none events = none →
          reopened.connection.transport = draft.connection.transport)
        ∧ (reopened.connection.transport = draft.connection.transport
          ↔ (Transport.HasSecureScheme url ↔ draft.connection.transport = .secure))
        ∧ (reopened.connection.transport = draft.connection.transport →
          reopened.urlWarning = draft.urlWarning) := by
  intro config' g₃
  obtain ⟨reopened, g₄, hopened, htransport, hwarning⟩ := exists_opened_transport hurl hassemble config'
    draft.pageIsSecure g₃
  have haddressed := hreached.addressed (.fresh hstart)
  have hwellFormed := hreached.wellFormed (wellFormed_of_new hstart)
  obtain ⟨name, -, -, rfl⟩ := new_ok hstart
  refine ⟨reopened, g₄, hopened, ?_, fun huntyped => ?_, ?_, fun hsame => ?_⟩
  · rw [htransport, Transport.ofText_eq_secure_iff]
  · rw [htransport]
    exact haddressed.ofText_eq huntyped hhost hpath hloaded hurl
  · rw [htransport, ← Transport.ofText_eq_secure_iff]
    cases Transport.ofText url <;> cases draft.connection.transport <;> decide
  · rw [hwarning, ← htransport, hsame, hwellFormed.urlWarning]

/-- A first draft on a secured page, with its identity typed in. -/
def onSecuredPage (g : Generator) : Draft :=
  (firstSecured g).withIdentity ((firstSecured g).connection.identity.selectMode .custom none g).1

theorem reached_onSecuredPage (g : Generator) :
    Reached Config.standard (firstSecured g) [.selectMode (.str "CUSTOM")] (onSecuredPage g) :=
  Reached.refl.selectMode (by decide) g

/-- Once the secured transport is selected for it, its profile is opened as secured and without a
warning. -/
theorem secured_profile_reopened :
    ∃ draft assembly reopened,
      Reached Config.standard (firstSecured (.ofStep 0 7))
          [.selectTransport (.str "wss"), .selectMode (.str "CUSTOM")] draft
        ∧ (draft.assemble (CredentialStore.broken (σ := Unit) "") none (.ofStep 0 7) ()).1 = .ok assembly
        ∧ (Draft.ofProfile Config.standard true assembly.profile (.ofStep 0 7)).1 = .ok reopened
        ∧ reopened.connection.transport = .secure
        ∧ reopened.urlWarning = draft.urlWarning := by
  let g : Generator := .ofStep 0 7
  let draft := (onSecuredPage g).transported Config.standard .secure
  have hreached : Reached Config.standard (firstSecured g)
      (.selectTransport (.str "wss") :: _) draft :=
    (reached_onSecuredPage g).selectTransport (by decide) (by decide +kernel) g
  have hcheck : draft.check = .ok ⟨60, 30000, 1000⟩ := by decide +kernel
  have hassemble := assemble_of_linked (CredentialStore.broken (σ := Unit) "") none g () hcheck
    (linkedReference_of_ne_auto _ (by decide) ()) rfl
  obtain ⟨reopened, g₄, hopened, -, huntyped, -, hwarning⟩ := reopened_transport Config.standard true 0 g _
    draft "wss://localhost:8085/mqtt" _ none g _ () () _ _ (new_secured g) hreached (by decide) (by decide)
    (fun settings hmem => by simp at hmem) (by decide +kernel) hassemble Config.standard g
  have hsame := huntyped rfl
  exact ⟨draft, _, reopened, hreached, congrArg Prod.fst hassemble, congrArg Prod.fst hopened, hsame,
    hwarning hsame⟩

/-- Where a secured address is typed for it instead, the draft stays plain, with its warning, and its profile
is opened as secured, with none. -/
theorem typed_address_reopened :
    ∃ draft assembly reopened,
      Reached Config.standard (firstSecured (.ofStep 0 7))
          [.editUrl (.str "wss://broker.example/mqtt"), .selectMode (.str "CUSTOM")] draft
        ∧ draft.connection.url.value = .str "wss://broker.example/mqtt"
        ∧ ¬ Transport.HasSecureScheme Config.standard.defaultHost
        ∧ ¬ Transport.HasSecureScheme Config.standard.urlPath
        ∧ (draft.assemble (CredentialStore.broken (σ := Unit) "") none (.ofStep 0 7) ()).1 = .ok assembly
        ∧ (Draft.ofProfile Config.standard true assembly.profile (.ofStep 0 7)).1 = .ok reopened
        ∧ reopened.connection.transport ≠ draft.connection.transport
        ∧ reopened.urlWarning ≠ draft.urlWarning := by
  let g : Generator := .ofStep 0 7
  let draft := (onSecuredPage g).editUrl (.str "wss://broker.example/mqtt")
  have hreached : Reached Config.standard (firstSecured g)
      (.editUrl (.str "wss://broker.example/mqtt") :: _) draft :=
    (reached_onSecuredPage g).step (g := g) rfl
  have hcheck : draft.check = .ok ⟨60, 30000, 1000⟩ := by decide +kernel
  have hassemble := assemble_of_linked (CredentialStore.broken (σ := Unit) "") none g () hcheck
    (linkedReference_of_ne_auto _ (by decide) ()) rfl
  have hurl : draft.connection.url.value = .str "wss://broker.example/mqtt" := rfl
  obtain ⟨reopened, g₄, hopened, htransport, hwarning⟩ :=
    exists_opened_transport hurl hassemble Config.standard true g
  refine ⟨draft, _, reopened, hreached, hurl, by decide, by decide, congrArg Prod.fst hassemble,
    congrArg Prod.fst hopened, ?_, ?_⟩
  · rw [htransport]
    decide
  · rw [hwarning]
    decide

end Draft

end MqttProfile
