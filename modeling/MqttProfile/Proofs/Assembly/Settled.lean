import MqttProfile.Proofs.Assembly.Legal
import MqttProfile.Proofs.Assembly.Outcome
import MqttProfile.Proofs.Identifier
import MqttProfile.Proofs.LastWill

/-!
# Settled configurations

Assembling trims texts, drops what is empty and fills in a client identifier.  A configuration on which
all this has been done is *settled*: its texts are trimmed, its client identifier is there, and its
numbers would pass the check again.  `settled_configuration` says that assembling a new draft settles its
configuration, and `assemble_of_restores` that a draft which restores a profile with a settled
configuration is assembled to that profile again.
-/

namespace MqttProfile

/-! ## Properties of version 5 -/

namespace Version5Properties

/-- The properties have the same values; their fields may be open in one and closed in the other. -/
structure SameValues (p q : Version5Properties) : Prop where
  sessionExpiryInterval : p.sessionExpiryInterval.value = q.sessionExpiryInterval.value
  sessionExpiryIntervalUnit : p.sessionExpiryIntervalUnit.value = q.sessionExpiryIntervalUnit.value
  maxPacketSize : p.maxPacketSize.value = q.maxPacketSize.value
  maxPacketSizeUnit : p.maxPacketSizeUnit.value = q.maxPacketSizeUnit.value
  topicAliasMax : p.topicAliasMax.value = q.topicAliasMax.value
  receiveMax : p.receiveMax.value = q.receiveMax.value
  requestResponseInfo : p.requestResponseInfo.value = q.requestResponseInfo.value

theorem sameValues_gate (p : Version5Properties) (level : Int) : (p.gate level).SameValues p := by
  rw [gate]
  split
  · exact ⟨rfl, rfl, rfl, rfl, rfl, rfl, rfl⟩
  · exact ⟨rfl, rfl, rfl, rfl, rfl, rfl, rfl⟩

/-- Whether properties are legal is a matter of their values. -/
theorem Legal.of_sameValues {p q : Version5Properties} (h : q.Legal) (hsame : p.SameValues q) :
    p.Legal := by
  constructor
  · rw [hsame.sessionExpiryInterval, hsame.sessionExpiryIntervalUnit]
    exact h.sessionExpiryInterval
  · rw [hsame.maxPacketSize, hsame.maxPacketSizeUnit]
    exact h.maxPacketSize
  · rw [hsame.topicAliasMax]
    exact h.topicAliasMax
  · rw [hsame.receiveMax]
    exact h.receiveMax

/-- The properties of a configuration are those that a draft stored in it, unless a value was null. -/
structure Stored (p : Version5Properties) (c : Configuration) : Prop where
  sessionExpiryInterval : c.sessionExpiryInterval = p.sessionExpiryInterval.value
    ∧ c.sessionExpiryInterval ≠ .null
  sessionExpiryIntervalUnit : c.sessionExpiryIntervalUnit = some p.sessionExpiryIntervalUnit.value
  maxPacketSize : c.maxPacketSize = p.maxPacketSize.value ∧ c.maxPacketSize ≠ .null
  maxPacketSizeUnit : c.maxPacketSizeUnit = some p.maxPacketSizeUnit.value
  topicAliasMax : c.topicAliasMax = p.topicAliasMax.value ∧ c.topicAliasMax ≠ .null
  receiveMax : c.receiveMax = p.receiveMax.value ∧ c.receiveMax ≠ .null
  requestResponseInfo : c.requestResponseInfo = p.requestResponseInfo.value
    ∧ c.requestResponseInfo ≠ .null

theorem value_stored (field : Field Json) {value : Json} (h : value ≠ .null) :
    (stored field value).value = value := by
  rw [stored, if_neg h]
  rfl

/-- Properties that were stored are restored. -/
theorem Stored.sameValues {p : Version5Properties} {c : Configuration} (h : p.Stored c) :
    (ofConfiguration c).SameValues p := by
  constructor
  · exact (value_stored _ h.sessionExpiryInterval.2).trans h.sessionExpiryInterval.1
  · rw [ofConfiguration, h.sessionExpiryIntervalUnit]
    rfl
  · exact (value_stored _ h.maxPacketSize.2).trans h.maxPacketSize.1
  · rw [ofConfiguration, h.maxPacketSizeUnit]
    rfl
  · exact (value_stored _ h.topicAliasMax.2).trans h.topicAliasMax.1
  · exact (value_stored _ h.receiveMax.2).trans h.receiveMax.1
  · exact (value_stored _ h.requestResponseInfo.2).trans h.requestResponseInfo.1

/-- What is stored of properties is stored of all with the same values. -/
theorem Stored.of_sameValues {p q : Version5Properties} {c : Configuration} (h : p.Stored c)
    (hsame : q.SameValues p) : q.Stored c := by
  constructor
  · rw [hsame.sessionExpiryInterval]
    exact h.sessionExpiryInterval
  · rw [hsame.sessionExpiryIntervalUnit]
    exact h.sessionExpiryIntervalUnit
  · rw [hsame.maxPacketSize]
    exact h.maxPacketSize
  · rw [hsame.maxPacketSizeUnit]
    exact h.maxPacketSizeUnit
  · rw [hsame.topicAliasMax]
    exact h.topicAliasMax
  · rw [hsame.receiveMax]
    exact h.receiveMax
  · rw [hsame.requestResponseInfo]
    exact h.requestResponseInfo

end Version5Properties

/-! ## Settled configurations -/

/-- A configuration as assembling leaves it. -/
structure Configuration.Settled (c : Configuration) : Prop where
  url : c.url.IsText ∧ c.url.Given ∧ c.url.trimmed = c.url
  clientId : c.clientId.IsText ∧ c.clientId.truthy = true ∧ c.clientId.trimmed = c.clientId
  username : c.username.IsText ∧ c.username.trimmed = c.username
  advanced : (AdvancedStep.ofConfiguration c).Legal
  properties : (Version5Properties.ofConfiguration c).Stored c
  lastWill : ∀ message, c.lastWill = some message → ∃ will, message.open? = .ok will
    ∧ will.trimmed.encode? = .ok (some message) ∧ Draft.checkLastWill (some will) = .ok ()
  userProperties : c.userProperties.filterMap (·.trimmed?) = c.userProperties

namespace Draft

/-- What has to be entered in a draft for its profile to be restored. -/
structure Restorable (draft : Draft) : Prop where
  url : draft.connection.url.value.IsText
  clientId : draft.connection.identity.clientId.value.IsText
  username : draft.connection.identity.username.value.IsText
  typedUsername : draft.credentialMode = .custom →
    draft.connection.identity.username.value = .null ∨ draft.connection.identity.username.value.Given
  sessionExpiryInterval : draft.advanced.properties.sessionExpiryInterval.value ≠ .null
  maxPacketSize : draft.advanced.properties.maxPacketSize.value ≠ .null
  topicAliasMax : draft.advanced.properties.topicAliasMax.value ≠ .null
  receiveMax : draft.advanced.properties.receiveMax.value ≠ .null
  requestResponseInfo : draft.advanced.properties.requestResponseInfo.value ≠ .null
  payload : ∀ will, draft.lastWill = some will → will.payload.isStructured = true → will.payload.Exact

/-- The client identifier of an assembled profile is a text that is there and trimmed. -/
theorem settled_assembledClientId {draft : Draft} (hediting : draft.editing = none)
    (htext : draft.connection.identity.clientId.value.IsText) (g : Generator) :
    (draft.assembledClientId g).1.IsText ∧ (draft.assembledClientId g).1.truthy = true
      ∧ (draft.assembledClientId g).1.trimmed = (draft.assembledClientId g).1 := by
  by_cases h : draft.connection.identity.clientId.value.trimmed.truthy = true
  · rw [assembledClientId_of_truthy g h]
    exact ⟨htext.trimmed, h, Json.trimmed_trimmed _⟩
  · -- nothing is edited, so the client identifier is generated
    rw [Bool.not_eq_true] at h
    have hdrawn : (draft.assembledClientId g).1 = .str g.clientId.1 := by
      rw [assembledClientId, Json.orElse_of_not_truthy h, hediting]
      rfl
    rw [hdrawn]
    refine ⟨trivial, ?_, ?_⟩
    · rw [Json.truthy_str_iff]
      exact Generator.clientId_ne_empty g
    · rw [Json.trimmed, Generator.trim_clientId]

/-- The advanced step that is restored from a configuration is legal if the one it was stored from was,
with the same numbers. -/
theorem legal_ofConfiguration {draft : Draft} {intervals : Intervals} {c : Configuration}
    (h : draft.advanced.Legal) (hnumbers : Numbers draft.advanced intervals)
    (hproperties : draft.advanced.properties.Stored c)
    (hkeep : c.keepAlive = intervals.keepAlive ∧ c.keepAliveUnit = draft.advanced.keepAliveUnit.value)
    (hconnect : c.connectTimeout = intervals.connectTimeout)
    (hreconnect : c.reconnectPeriod = intervals.reconnectPeriod)
    (hversion : c.mqttVersion = draft.advanced.mqttVersion) :
    (AdvancedStep.ofConfiguration c).Legal := by
  obtain ⟨keepAlive, hk, hadmitted⟩ := h.keepAlive
  obtain ⟨connectTimeout, hc, hconnectNatural⟩ := h.connectTimeout
  obtain ⟨reconnectPeriod, hr, hreconnectNatural⟩ := h.reconnectPeriod
  -- the numbers that are stored are those that passed
  rw [hnumbers.keepAlive] at hk
  rw [hnumbers.connectTimeout] at hc
  rw [hnumbers.reconnectPeriod] at hr
  cases hk
  cases hc
  cases hr
  refine ⟨⟨c.keepAlive, rfl, ?_⟩, ⟨c.connectTimeout, rfl, ?_⟩, ⟨c.reconnectPeriod, rfl, ?_⟩, ?_⟩
  · rw [hkeep.1]
    show Bounded.keepAlive.admits _ (.time c.keepAliveUnit) = _
    rw [hkeep.2]
    exact hadmitted
  · rw [hconnect]
    exact hconnectNatural
  · rw [hreconnect]
    exact hreconnectNatural
  · intro hfive
    have hlegal := h.properties (hversion.symm.trans hfive)
    exact hlegal.of_sameValues hproperties.sameValues

/-- Assembling a new draft that passed its check settles its configuration. -/
theorem settled_configuration {draft : Draft} {intervals : Intervals} (hdraft : draft.WellFormed)
    (hediting : draft.editing = none) (hcheck : draft.check = .ok intervals)
    (hencodable : draft.willEncodable = true) (h : draft.Restorable) (link : Json) (g : Generator) :
    (draft.configuration intervals link (draft.assembledClientId g).1 draft.willMessage?).Settled := by
  obtain ⟨hconnection, hadvanced, hlastWill⟩ := (check_eq_ok_iff draft intervals).mp hcheck
  obtain ⟨-, hurl, -⟩ := ((checks_connection hdraft).passes ()).mp hconnection
  obtain ⟨hlegal, hnumbers⟩ := ((checks_advanced draft.advanced).passes intervals).mp hadvanced
  have hproperties : draft.advanced.properties.Stored
      (draft.configuration intervals link (draft.assembledClientId g).1 draft.willMessage?) :=
    ⟨⟨rfl, h.sessionExpiryInterval⟩, rfl, ⟨rfl, h.maxPacketSize⟩, rfl, ⟨rfl, h.topicAliasMax⟩,
      ⟨rfl, h.receiveMax⟩, ⟨rfl, h.requestResponseInfo⟩⟩
  constructor
  · exact ⟨h.url.trimmed, (Json.given_trimmed_iff _).mpr hurl, Json.trimmed_trimmed _⟩
  · exact settled_assembledClientId hediting h.clientId g
  · exact ⟨h.username.trimmed, Json.trimmed_trimmed _⟩
  · exact legal_ofConfiguration hlegal hnumbers hproperties ⟨rfl, rfl⟩ rfl rfl rfl
  · exact hproperties.of_sameValues hproperties.sameValues
  · -- the last will is stored trimmed, and is opened as it was stored
    intro message hmessage
    obtain ⟨will, hwill, hstored⟩ := Option.bind_eq_some_iff.mp hmessage
    rw [willEncodable, hwill] at hencodable
    refine ⟨will.trimmed, LastWill.open_message hencodable hstored ?_, ?_, ?_⟩
    · intro hstructured
      have hsame := LastWill.payload_trimmed_of_structured hstructured
      rw [hsame] at hstructured ⊢
      exact h.payload will hwill hstructured
    · rw [LastWill.trimmed_trimmed, LastWill.encode_of_encodable hencodable, hstored]
    · rw [LastWill.checkLastWill_trimmed, ← hwill]
      exact hlastWill
  · exact UserProperty.filterMap_trimmed draft.userProperties

/-! ## Restored drafts -/

/-- The identity is the one that a configuration holds, and is legal. -/
structure RestoresIdentity (identity : Identity) (c : Configuration) : Prop where
  mode : identity.mode ≠ .auto
  legal : identity.Legal
  clientId : identity.clientId.value = c.clientId
  username : identity.username.value = c.username
  password : identity.password.value = .null
  reference : linkTo (identity.reference.value.map (·.record)) = c.clientCredentialsId

/-- The draft holds what a profile holds, and is ready to be assembled to it. -/
structure Restores (draft : Draft) (profile : Profile) : Prop where
  wellFormed : draft.WellFormed
  editing : draft.editing = some profile
  name : draft.connection.name.value = profile.name
  url : draft.connection.url.value = profile.configuration.url
  rejectUnauthorized : draft.connection.rejectUnauthorized.value
    = .bool profile.configuration.rejectUnauthorized
  identity : RestoresIdentity draft.connection.identity profile.configuration
  advanced : draft.advanced = (AdvancedStep.ofConfiguration profile.configuration).gated
  lastWill : storedWill profile.configuration = .ok draft.lastWill
  userProperties : draft.userProperties = profile.configuration.userProperties

/-- The last will that a settled configuration holds passes its check and is stored as it was. -/
theorem encodedWill_of_storedWill {c : Configuration} (h : c.Settled) {draft : Draft}
    (hstored : storedWill c = .ok draft.lastWill) :
    draft.encodedWill = .ok c.lastWill ∧ checkLastWill draft.lastWill = .ok () := by
  rw [storedWill] at hstored
  cases hmessage : c.lastWill with
  | none =>
    rw [hmessage] at hstored
    rw [encodedWill, ← Except.ok.inj hstored]
    exact ⟨rfl, rfl⟩
  | some message =>
    obtain ⟨will, hopen, hencode, hcheck⟩ := h.lastWill message hmessage
    rw [hmessage] at hstored
    dsimp only at hstored
    rw [hopen] at hstored
    rw [encodedWill, ← Except.ok.inj hstored]
    exact ⟨hencode, hcheck⟩

/-- The numbers of a configuration. -/
def intervalsOf (c : Configuration) : Intervals :=
  ⟨c.keepAlive, c.connectTimeout, c.reconnectPeriod⟩

/-- A draft that restores a settled profile passes its check with the numbers of the profile. -/
theorem check_of_restores {draft : Draft} {profile : Profile} (h : draft.Restores profile)
    (hname : profile.name.Given) (hsettled : profile.configuration.Settled) :
    draft.check = .ok (intervalsOf profile.configuration) := by
  rw [check_eq_ok_iff]
  refine ⟨?_, ?_, ?_⟩
  · refine ((checks_connection h.wellFormed).passes ()).mpr ⟨?_, ?_, h.identity.legal⟩
    · rw [h.name]
      exact hname
    · rw [h.url]
      exact hsettled.url.2.1
  · rw [h.advanced]
    have hlegal := hsettled.advanced
    refine ((checks_advanced _).passes _).mpr ⟨⟨hlegal.keepAlive, hlegal.connectTimeout,
      hlegal.reconnectPeriod, fun hfive => ?_⟩, ⟨rfl, rfl, rfl⟩⟩
    exact (hlegal.properties hfive).of_sameValues (Version5Properties.sameValues_gate _ _)
  · exact (encodedWill_of_storedWill hsettled h.lastWill).2

/-- A profile with the record that it needs no password. -/
def withoutPassword (profile : Profile) : Profile :=
  { profile with configuration := { profile.configuration with passwordRequired := false } }

/-- The settings of a draft that restores a settled profile are those of the profile. -/
theorem configuration_of_restores {draft : Draft} {profile : Profile} (h : draft.Restores profile)
    (hsettled : profile.configuration.Settled) :
    draft.configuration (intervalsOf profile.configuration) profile.configuration.clientCredentialsId
        profile.configuration.clientId profile.configuration.lastWill
      = (withoutPassword profile).configuration := by
  have hproperties : (AdvancedStep.ofConfiguration profile.configuration).gated.properties.Stored
      profile.configuration :=
    hsettled.properties.of_sameValues (Version5Properties.sameValues_gate _ _)
  simp only [configuration, h.url, h.identity.username, h.identity.password, h.rejectUnauthorized, h.advanced,
    h.userProperties, hsettled.url.2.2, hsettled.username.2, hsettled.userProperties,
    ← hproperties.sessionExpiryInterval.1, ← hproperties.sessionExpiryIntervalUnit,
    ← hproperties.maxPacketSize.1, ← hproperties.maxPacketSizeUnit, ← hproperties.topicAliasMax.1,
    ← hproperties.receiveMax.1, ← hproperties.requestResponseInfo.1]
  rfl

variable {σ : Type}

/-- A draft that restores a settled profile is assembled to that profile again, without issuing a
credential. -/
theorem assemble_of_restores (store : CredentialStore σ) (user : Option String) {draft : Draft}
    {profile : Profile} (h : draft.Restores profile) (hname : profile.name.Given)
    (htrimmed : profile.name.trimmed = profile.name) (hsettled : profile.configuration.Settled)
    (g : Generator) (world : σ) :
    draft.assemble store user g world = (.ok ⟨withoutPassword profile, .null⟩, g, world) := by
  have hcheck := check_of_restores h hname hsettled
  have hlinked := linkedReference_of_ne_auto store h.identity.mode world
  have htruthy : draft.connection.identity.clientId.value.trimmed.truthy = true := by
    rw [h.identity.clientId, hsettled.clientId.2.2]
    exact hsettled.clientId.2.1
  have hclientId : draft.assembledClientId g = (profile.configuration.clientId, g) := by
    rw [assembledClientId_of_truthy g htruthy, h.identity.clientId, hsettled.clientId.2.2]
  have hconfiguration := configuration_of_restores h hsettled
  obtain ⟨hencodable, hmessage⟩ := (draft.encodedWill_eq_ok_iff _).mp
    (encodedWill_of_storedWill hsettled h.lastWill).1
  have hmerged : draft.merged (intervalsOf profile.configuration)
      (draft.connection.identity.reference.value.map (·.record)) user g = withoutPassword profile := by
    rw [merged_of_editing h.editing, hclientId, hmessage, h.identity.reference, hconfiguration, h.name, htrimmed]
    rfl
  have hgenerator : draft.generatorAfter g = g := by
    rw [← assembledClientId_generator, hclientId]
  rw [assemble_of_linked store user g world hcheck hlinked hencodable, hmerged, hgenerator, h.identity.password]
  rfl

end Draft

end MqttProfile
