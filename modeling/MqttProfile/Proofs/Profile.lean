import MqttProfile.Proofs.Assembly.Outcome
import MqttProfile.Proofs.Store.Reopened
import MqttProfile.Proofs.WillMessage

/-!
# Stored profiles

Reading a stored profile fills in what is missing and converts what is oddly typed.  What comes out is a normal
form: stored again it is read as it is.  A profile that was assembled is in this form from the start.

* `WellTyped` is the normal form, of a configuration and of a profile: the texts that reading makes are texts,
  the last will has a topic, and every user property has a key;
* `Configuration.ofJson_toJson` and `Profile.ofJson_toJson` say that the normal form is read as it was stored;
* `wellTyped_of_ofJson` and `Draft.wellTyped_of_assemble` say where it comes from.
-/

namespace MqttProfile

/-! ## Members that are always stored -/

theorem TimeUnit.ofJson_stored (unit : TimeUnit) (default : Json) :
    TimeUnit.ofJson ((Json.str unit.name).orElse default) = .ok unit := by
  cases unit <;> rfl

theorem SizeUnit.optional_nameOrNull (unit : Option SizeUnit) :
    Json.optional SizeUnit.ofJson (SizeUnit.nameOrNull unit) = .ok unit := by
  cases unit with
  | none => rfl
  | some unit => cases unit <;> rfl

theorem MqttVersion.ofJson_level (version : MqttVersion) :
    MqttVersion.ofJson (.int version.level) = .ok version := by
  cases version <;> rfl

theorem Json.shown_orElse_empty (s : String) : ((Json.str s).orElse (.str "")).shown = .ok s := by
  by_cases hs : s = ""
  · subst hs
    rfl
  · rw [Json.orElse_of_truthy ((Json.truthy_str_iff s).mpr hs), Json.shown_str]

/-! ## User properties -/

namespace UserProperty

/-- A property as it is read: its key is a text that is not empty. -/
def WellTyped (property : UserProperty) : Prop :=
  ∃ s, property.key = .str s ∧ s ≠ ""

/-- Every property that is read is well-typed. -/
theorem wellTyped_of_ofItem {item : Json} {property : UserProperty} (h : ofItem? item = .ok (some property)) :
    property.WellTyped := by
  cases item with
  | null | bool _ | int _ | float _ | str _ | arr _ => cases h
  | obj members =>
    rw [ofItem?] at h
    split at h
    · rename_i hkey
      obtain ⟨key, hshown, hsome⟩ := exists_of_map_eq_ok h
      cases hsome
      rw [Json.eq_display_of_shown hshown]
      exact ⟨_, rfl, Json.display_ne_empty hkey⟩
    · cases h

/-- So are all properties of a stored list. -/
theorem wellTyped_of_ofJson {stored : Json} {properties : List UserProperty}
    (h : ofJson stored = .ok properties) : ∀ property ∈ properties, property.WellTyped := by
  rw [ofJson] at h
  obtain ⟨members, -, h⟩ := exists_of_bind_eq_ok h
  dsimp only at h
  split at h
  · split at h
    · obtain ⟨kept, hkept, h⟩ := exists_of_bind_eq_ok h
      cases h
      intro property hproperty
      obtain ⟨_, hmem, rfl⟩ := List.mem_filterMap.mp hproperty
      obtain ⟨item, -, hitem⟩ := exists_of_mem_mapM hkept _ hmem
      exact wellTyped_of_ofItem hitem
    · cases h
      exact nofun
    · cases h
      exact nofun
    · cases h
  · cases h
    exact nofun

/-- A well-typed property is read as it was stored. -/
theorem ofItem_toJson {property : UserProperty} (h : property.WellTyped) :
    ofItem? property.toJson = .ok (some property) := by
  obtain ⟨key, value⟩ := property
  obtain ⟨s, rfl, hs⟩ := h
  have htruthy : (Json.str s).truthy = true := (Json.truthy_str_iff s).mpr hs
  show (if (Json.str s).truthy then (Json.str s).shown.map _ else _) = _
  rw [if_pos htruthy, Json.shown_str]
  rfl

/-- What is stored for properties, or null where there are none. -/
def listOrNull (properties : List UserProperty) : Json :=
  if properties.isEmpty then .null else .obj [("props", .arr (properties.map (·.toJson)))]

/-- Well-typed properties are read as they were stored. -/
theorem ofJson_listOrNull {properties : List UserProperty}
    (h : ∀ property ∈ properties, property.WellTyped) : ofJson (listOrNull properties) = .ok properties := by
  cases properties with
  | nil => rfl
  | cons property others =>
    have hread : ((property :: others).map (·.toJson)).mapM ofItem? = .ok ((property :: others).map some) := by
      rw [List.mapM_map]
      exact mapM_eq_ok_map fun item hmem => ofItem_toJson (h item hmem)
    show (((property :: others).map (·.toJson)).mapM ofItem?).bind (fun kept => .ok (kept.filterMap id)) = _
    rw [hread, bind_ok, List.filterMap_map]
    exact congrArg Except.ok List.filterMap_some

end UserProperty

/-! ## Configurations -/

namespace Configuration

/-- A configuration as it is read. -/
structure WellTyped (c : Configuration) : Prop where
  url : ∃ s, c.url = .str s
  clientId : ∃ s, c.clientId = .str s
  lastWill : ∀ message, c.lastWill = some message → message.WellTyped ∧ message.topic.truthy = true
  userProperties : ∀ property ∈ c.userProperties, property.WellTyped

/-- A last will that is read has a topic. -/
theorem wellTyped_of_storedWill {stored : Json} {message : WillMessage}
    (h : storedWill stored = .ok (some message)) :
    message.WellTyped ∧ message.topic.truthy = true := by
  cases stored with
  | null | bool _ | int _ | float _ | str _ | arr _ => cases h
  | obj members =>
    rw [storedWill] at h
    split at h
    · rename_i htopic
      obtain ⟨read, hread, hsome⟩ := exists_of_map_eq_ok h
      cases hsome
      exact ⟨WillMessage.wellTyped_of_ofJson hread, WillMessage.truthy_topic_of_ofJson htopic hread⟩
    · cases h

/-- Every configuration that is read is well-typed. -/
theorem wellTyped_of_ofJson {payload : Json} {c : Configuration} (h : ofJson payload = .ok c) :
    c.WellTyped := by
  rw [ofJson] at h
  obtain ⟨members, -, h⟩ := exists_of_bind_eq_ok h
  obtain ⟨properties, hproperties, h⟩ := exists_of_bind_eq_ok h
  obtain ⟨url, -, h⟩ := exists_of_bind_eq_ok h
  obtain ⟨clientId, -, h⟩ := exists_of_bind_eq_ok h
  obtain ⟨keepAlive, -, h⟩ := exists_of_bind_eq_ok h
  obtain ⟨keepAliveUnit, -, h⟩ := exists_of_bind_eq_ok h
  obtain ⟨connectTimeout, -, h⟩ := exists_of_bind_eq_ok h
  obtain ⟨connectTimeoutUnit, -, h⟩ := exists_of_bind_eq_ok h
  obtain ⟨reconnectPeriod, -, h⟩ := exists_of_bind_eq_ok h
  obtain ⟨reconnectPeriodUnit, -, h⟩ := exists_of_bind_eq_ok h
  obtain ⟨version, -, h⟩ := exists_of_bind_eq_ok h
  obtain ⟨sessionExpiryIntervalUnit, -, h⟩ := exists_of_bind_eq_ok h
  obtain ⟨maxPacketSizeUnit, -, h⟩ := exists_of_bind_eq_ok h
  obtain ⟨lastWill, hlastWill, h⟩ := exists_of_bind_eq_ok h
  cases h
  refine ⟨⟨_, rfl⟩, ⟨_, rfl⟩, ?_, UserProperty.wellTyped_of_ofJson hproperties⟩
  rintro message rfl
  exact wellTyped_of_storedWill hlastWill

/-- What is stored for a last will, or null where there is none. -/
def willOrNull (lastWill : Option WillMessage) : Json :=
  match lastWill with
  | some message => message.toJson
  | none => .null

/-- A well-typed last will with a topic is read as it was stored. -/
theorem storedWill_willOrNull {lastWill : Option WillMessage}
    (h : ∀ message, lastWill = some message → message.WellTyped ∧ message.topic.truthy = true) :
    storedWill (willOrNull lastWill) = .ok lastWill := by
  cases lastWill with
  | none => rfl
  | some message =>
    obtain ⟨htyped, htopic⟩ := h message rfl
    show (if message.topic.truthy then (WillMessage.ofJson message.toJson).map some else _) = _
    rw [if_pos htopic, WillMessage.ofJson_toJson htyped]
    rfl

/-- The members of a configuration that are always stored. -/
def fixedMembers (c : Configuration) : Json.Members :=
  [("url", c.url),
   ("rejectUnauthorized", .bool c.rejectUnauthorized),
   ("clientCredentialsId", c.clientCredentialsId),
   ("clientId", c.clientId),
   ("username", c.username),
   ("passwordRequired", .bool c.passwordRequired),
   ("cleanStart", .bool c.cleanStart),
   ("keepAlive", .int c.keepAlive),
   ("keepAliveUnit", .str c.keepAliveUnit.name),
   ("connectTimeout", .int c.connectTimeout),
   ("connectTimeoutUnit", .str c.connectTimeoutUnit.name),
   ("reconnectPeriod", .int c.reconnectPeriod),
   ("reconnectPeriodUnit", .str c.reconnectPeriodUnit.name),
   ("mqttVersion", .int c.mqttVersion.level),
   ("sessionExpiryInterval", c.sessionExpiryInterval),
   ("sessionExpiryIntervalUnit", TimeUnit.nameOrNull c.sessionExpiryIntervalUnit),
   ("maxPacketSize", c.maxPacketSize),
   ("maxPacketSizeUnit", SizeUnit.nameOrNull c.maxPacketSizeUnit),
   ("topicAliasMax", c.topicAliasMax),
   ("receiveMax", c.receiveMax),
   ("requestResponseInfo", c.requestResponseInfo)]

/-- The members of a configuration that are stored if there is something to store. -/
def furtherMembers (c : Configuration) : Json.Members :=
  (match c.lastWill with
    | some message => [("lastWillMsg", message.toJson)]
    | none => [])
    ++ (if c.userProperties.isEmpty then []
        else [("userProperties", .obj [("props", .arr (c.userProperties.map (·.toJson)))])])

theorem toJson_eq (c : Configuration) : c.toJson = .obj (c.fixedMembers ++ c.furtherMembers) := by
  rw [toJson, furtherMembers, ← List.append_assoc]
  rfl

theorem memberOrNull_lastWill (c : Configuration) :
    Json.memberOrNull "lastWillMsg" (c.fixedMembers ++ c.furtherMembers) = willOrNull c.lastWill := by
  have hother : "lastWillMsg" ∉ c.fixedMembers.map (·.1) := by
    simp [fixedMembers]
  rw [Json.memberOrNull_append_of_not_mem hother, furtherMembers]
  cases c.lastWill <;> cases c.userProperties <;> rfl

theorem memberOrNull_userProperties (c : Configuration) :
    Json.memberOrNull "userProperties" (c.fixedMembers ++ c.furtherMembers)
      = UserProperty.listOrNull c.userProperties := by
  have hother : "userProperties" ∉ c.fixedMembers.map (·.1) := by
    simp [fixedMembers]
  rw [Json.memberOrNull_append_of_not_mem hother, furtherMembers]
  cases c.lastWill <;> cases c.userProperties <;> rfl

/-- A well-typed configuration is read as it was stored. -/
theorem ofJson_toJson {c : Configuration} (h : c.WellTyped) : ofJson c.toJson = .ok c := by
  obtain ⟨url, hurl⟩ := h.url
  obtain ⟨clientId, hclientId⟩ := h.clientId
  have hproperties := UserProperty.ofJson_listOrNull h.userProperties
  have hwill := storedWill_willOrNull h.lastWill
  rw [← memberOrNull_userProperties] at hproperties
  rw [← memberOrNull_lastWill] at hwill
  have hkeepAliveUnit := TimeUnit.ofJson_stored c.keepAliveUnit (.str TimeUnit.seconds.name)
  have hconnectUnit := TimeUnit.ofJson_stored c.connectTimeoutUnit (.str TimeUnit.milliseconds.name)
  have hreconnectUnit := TimeUnit.ofJson_stored c.reconnectPeriodUnit (.str TimeUnit.milliseconds.name)
  have hversion := MqttVersion.ofJson_level c.mqttVersion
  have hexpiryUnit := TimeUnit.optional_nameOrNull c.sessionExpiryIntervalUnit
  have hpacketUnit := SizeUnit.optional_nameOrNull c.maxPacketSizeUnit
  -- the members that are always there are looked up in front of the others
  have hread : ofJson (.obj (c.fixedMembers ++ c.furtherMembers))
      = (UserProperty.ofJson (Json.memberOrNull "userProperties" (c.fixedMembers ++ c.furtherMembers))).bind
          fun userProperties =>
        (c.url.orElse (.str "")).shown.bind fun url =>
        (c.clientId.orElse (.str "")).shown.bind fun clientId =>
        (TimeUnit.ofJson ((Json.str c.keepAliveUnit.name).orElse (.str TimeUnit.seconds.name))).bind
          fun keepAliveUnit =>
        (TimeUnit.ofJson ((Json.str c.connectTimeoutUnit.name).orElse (.str TimeUnit.milliseconds.name))).bind
          fun connectTimeoutUnit =>
        (TimeUnit.ofJson ((Json.str c.reconnectPeriodUnit.name).orElse (.str TimeUnit.milliseconds.name))).bind
          fun reconnectPeriodUnit =>
        (MqttVersion.ofJson (.int c.mqttVersion.level)).bind fun mqttVersion =>
        (Json.optional TimeUnit.ofJson (TimeUnit.nameOrNull c.sessionExpiryIntervalUnit)).bind
          fun sessionExpiryIntervalUnit =>
        (Json.optional SizeUnit.ofJson (SizeUnit.nameOrNull c.maxPacketSizeUnit)).bind fun maxPacketSizeUnit =>
        (storedWill (Json.memberOrNull "lastWillMsg" (c.fixedMembers ++ c.furtherMembers))).bind fun lastWill =>
          .ok { c with
            url := .str url, clientId := .str clientId
            keepAliveUnit, connectTimeoutUnit, reconnectPeriodUnit, mqttVersion, sessionExpiryIntervalUnit
            maxPacketSizeUnit, lastWill, userProperties } := rfl
  rw [toJson_eq, hread, hproperties, hkeepAliveUnit, hconnectUnit, hreconnectUnit, hversion, hexpiryUnit,
    hpacketUnit, hwill]
  simp only [bind_ok, hurl, hclientId, Json.shown_orElse_empty]
  rw [← hurl, ← hclientId]

end Configuration

/-! ## Profiles -/

namespace Profile

/-- A profile as it is read. -/
structure WellTyped (profile : Profile) : Prop where
  name : ∃ s, profile.name = .str s
  configuration : profile.configuration.WellTyped

/-- Every profile that is read is well-typed. -/
theorem wellTyped_of_ofJson {payload : Json} {profile : Profile} (h : ofJson payload = .ok profile) :
    profile.WellTyped := by
  rw [ofJson] at h
  obtain ⟨required, -, h⟩ := exists_of_bind_eq_ok h
  obtain ⟨name, -, h⟩ := exists_of_bind_eq_ok h
  obtain ⟨members, -, h⟩ := exists_of_bind_eq_ok h
  obtain ⟨configuration, hconfiguration, h⟩ := exists_of_bind_eq_ok h
  obtain ⟨id, -, h⟩ := exists_of_bind_eq_ok h
  obtain ⟨userId, -, h⟩ := exists_of_bind_eq_ok h
  cases h
  exact ⟨⟨_, rfl⟩, Configuration.wellTyped_of_ofJson hconfiguration⟩

theorem identifier_textOrNull (id : Option String) : identifier? (textOrNull id) = .ok id := by
  cases id with
  | none => rfl
  | some id =>
    show (Json.str id).shown.map some = _
    rw [Json.shown_str, map_ok]

/-- The members of a profile that are always stored. -/
def fixedMembers (profile : Profile) : Json.Members :=
  [("name", profile.name), ("userId", textOrNull profile.userId),
   ("configuration", profile.configuration.toJson)]

/-- The members of a profile that are stored if there is something to store. -/
def furtherMembers (profile : Profile) : Json.Members :=
  (match profile.id with
    | some id => [("id", .str id)]
    | none => [])
    ++ (if profile.createdTime = .null then [] else [("createdTime", profile.createdTime)])

theorem toJson_eq (profile : Profile) :
    profile.toJson = .obj (profile.fixedMembers ++ profile.furtherMembers) := by
  rw [toJson, furtherMembers, ← List.append_assoc]
  rfl

theorem memberOrNull_id (profile : Profile) :
    Json.memberOrNull "id" (profile.fixedMembers ++ profile.furtherMembers) = textOrNull profile.id := by
  have hother : "id" ∉ profile.fixedMembers.map (·.1) := by
    simp [fixedMembers]
  rw [Json.memberOrNull_append_of_not_mem hother, furtherMembers]
  cases profile.id with
  | some id => rfl
  | none =>
    rw [List.nil_append]
    split <;> rfl

theorem memberOrNull_createdTime (profile : Profile) :
    Json.memberOrNull "createdTime" (profile.fixedMembers ++ profile.furtherMembers) = profile.createdTime := by
  have hother : "createdTime" ∉ profile.fixedMembers.map (·.1) := by
    simp [fixedMembers]
  have htime : Json.memberOrNull "createdTime"
      (if profile.createdTime = .null then [] else [("createdTime", profile.createdTime)])
        = profile.createdTime := by
    split
    · rename_i hnull
      rw [hnull]
      rfl
    · rfl
  rw [Json.memberOrNull_append_of_not_mem hother, furtherMembers]
  cases profile.id with
  | some id => exact htime
  | none => exact htime

/-- A well-typed profile is read as it was stored. -/
theorem ofJson_toJson {profile : Profile} (h : profile.WellTyped) :
    ofJson profile.toJson = .ok profile := by
  obtain ⟨name, hname⟩ := h.name
  have hread : ofJson (.obj (profile.fixedMembers ++ profile.furtherMembers))
      = profile.name.shown.bind fun name =>
        (Configuration.ofJson profile.configuration.toJson).bind fun configuration =>
        (identifier? (Json.memberOrNull "id" (profile.fixedMembers ++ profile.furtherMembers))).bind fun id =>
        (identifier? (textOrNull profile.userId)).bind fun userId =>
          .ok {
            name := .str name
            configuration
            id
            userId
            createdTime :=
              Json.memberOrNull "createdTime" (profile.fixedMembers ++ profile.furtherMembers) } := rfl
  rw [toJson_eq, hread, hname, Json.shown_str, Configuration.ofJson_toJson h.configuration, memberOrNull_id,
    memberOrNull_createdTime, identifier_textOrNull, identifier_textOrNull]
  simp only [bind_ok]
  rw [← hname]

end Profile

/-! ## Assembled profiles -/

/-- A last will with a text or null as topic, an integer as quality of service and a truth value as flag. -/
structure LastWill.FieldsTyped (will : LastWill) : Prop where
  topic : will.topic.IsText
  qos : ∃ n, will.qos = .int n
  retain : ∃ b, will.retain = .bool b

namespace Draft

/-- The texts of a draft are texts: name, address and client identifier are there, and the client identifier of
an edited profile and the keys of the user properties may be null. -/
structure TextsTyped (draft : Draft) : Prop where
  name : ∃ s, draft.connection.name.value = .str s
  url : ∃ s, draft.connection.url.value = .str s
  clientId : ∃ s, draft.connection.identity.clientId.value = .str s
  edited : ∀ profile, draft.editing = some profile → profile.configuration.clientId.IsText
  keys : ∀ property ∈ draft.userProperties, property.key.IsText

/-- The client identifier of an assembled profile is a text. -/
theorem exists_assembledClientId {draft : Draft} (h : draft.TextsTyped) (g : Generator) :
    ∃ s, (draft.assembledClientId g).1 = .str s := by
  obtain ⟨entered, hentered⟩ := h.clientId
  by_cases htruthy : draft.connection.identity.clientId.value.trimmed.truthy = true
  · rw [assembledClientId_of_truthy g htruthy, hentered]
    exact ⟨_, rfl⟩
  · rw [Bool.not_eq_true] at htruthy
    rw [assembledClientId, Json.orElse_of_not_truthy htruthy, Identity.clientIdOrDrawn]
    cases hediting : draft.editing with
    | none => exact ⟨_, rfl⟩
    | some profile =>
      have hknown : Identity.storedClientId (some profile) = profile.configuration.clientId.orNull := rfl
      rw [hknown]
      by_cases hstored : profile.configuration.clientId.orNull.truthy = true
      · -- the client identifier of the edited profile is there, and so it is no null
        have hne : profile.configuration.clientId.orNull ≠ .null := by
          intro hnull
          rw [hnull] at hstored
          cases hstored
        obtain ⟨s, hs, hnonempty⟩ := (h.edited profile hediting).orNull_ne_null_iff.mp hne
        have hkept : profile.configuration.clientId.orNull = .str s := by
          rw [hs, Json.orNull, Json.orElse_of_truthy ((Json.truthy_str_iff s).mpr hnonempty)]
        exact ⟨s, by rw [if_pos hstored, hkept]⟩
      · exact ⟨_, by rw [if_neg hstored]⟩

/-- A user property that is left once it is trimmed is well-typed. -/
theorem wellTyped_of_trimmed {property trimmed : UserProperty} (hkey : property.key.IsText)
    (h : property.trimmed? = some trimmed) : trimmed.WellTyped := by
  rw [UserProperty.trimmed?] at h
  split at h
  · rename_i htruthy
    cases h
    obtain ⟨s, hs, -⟩ := hkey.exists_str (hkey.truthy_trimmed_iff.mp htruthy)
    rw [hs] at htruthy
    exact ⟨_, congrArg Json.trimmed hs, (Json.truthy_str_iff _).mp htruthy⟩
  · cases h

/-- A last will whose fields are typed is stored as a well-typed message with a topic. -/
theorem wellTyped_of_message_trimmed {will : LastWill} {message : WillMessage} (h : will.FieldsTyped)
    (hmessage : will.trimmed.message? = some message) :
    message.WellTyped ∧ message.topic.truthy = true := by
  rw [LastWill.message?] at hmessage
  split at hmessage
  · rename_i htruthy
    cases hmessage
    have htopic : will.topic.trimmed.truthy = true := htruthy
    obtain ⟨s, hs, -⟩ := h.topic.exists_str (h.topic.truthy_trimmed_iff.mp htopic)
    exact ⟨⟨⟨_, congrArg Json.trimmed hs⟩, h.qos, h.retain⟩, htruthy⟩
  · cases hmessage

/-- A profile that was assembled from a draft whose texts are texts and whose last will is typed is
well-typed. -/
theorem wellTyped_of_assemble {σ : Type} {store : CredentialStore σ} {user : Option String} {draft : Draft}
    {g g' : Generator} {world world' : σ} {assembly : Assembly} (htexts : draft.TextsTyped)
    (hwill : ∀ will, draft.lastWill = some will → will.FieldsTyped)
    (h : draft.assemble store user g world = (.ok assembly, g', world')) : assembly.profile.WellTyped := by
  obtain ⟨intervals, reference?, -, -, -, rfl, -⟩ :=
    (assemble_eq_ok_iff store user draft g g' world world' assembly).mp h
  obtain ⟨name, hname⟩ := htexts.name
  obtain ⟨url, hurl⟩ := htexts.url
  have hconfiguration : (draft.merged intervals reference? user g).configuration.WellTyped := by
    rw [merged_configuration]
    refine ⟨⟨_, congrArg Json.trimmed hurl⟩, exists_assembledClientId htexts g, ?_, ?_⟩
    · intro message hmessage
      obtain ⟨will, hsome, hstored⟩ := Option.bind_eq_some_iff.mp hmessage
      exact wellTyped_of_message_trimmed (hwill will hsome) hstored
    · intro property hproperty
      obtain ⟨entered, hentered, htrimmed⟩ := List.mem_filterMap.mp hproperty
      exact wellTyped_of_trimmed (htexts.keys entered hentered) htrimmed
  refine ⟨?_, hconfiguration⟩
  rw [merged_name, hname]
  exact ⟨_, rfl⟩

end Draft

/-- Every profile that is read, from whatever stored form, is read again as it is once it is stored; and so is
every profile that is assembled, with whatever credential store, from a draft whose texts are texts and whose
last will is typed. -/
theorem profile_reread :
    (∀ payload profile, Profile.ofJson payload = .ok profile → Profile.ofJson profile.toJson = .ok profile)
      ∧ ∀ (σ : Type) (store : CredentialStore σ) (user : Option String) (draft : Draft) (g g' : Generator)
          (world world' : σ) (assembly : Assembly),
        draft.TextsTyped → (∀ will, draft.lastWill = some will → will.FieldsTyped) →
        draft.assemble store user g world = (.ok assembly, g', world') →
        Profile.ofJson assembly.profile.toJson = .ok assembly.profile := by
  constructor
  · intro payload profile h
    exact Profile.ofJson_toJson (Profile.wellTyped_of_ofJson h)
  · intro σ store user draft g g' world world' assembly htexts hwill h
    exact Profile.ofJson_toJson (Draft.wellTyped_of_assemble htexts hwill h)

/-- A profile in an odd form: the identifier in a wrapper, numbers for texts, and a user property without a
key in front of one with a number as key. -/
def Profile.oddlyStored : Json :=
  .obj [("id", .obj [("id", .str "p-1")]), ("name", .int 7), ("configuration", .obj [
    ("url", .str "tcp://broker:1883"), ("clientId", .int 12), ("cleanStart", .null),
    ("lastWillMsg", .obj [("topic", .str "status"), ("payload", .bool false)]),
    ("userProperties", .obj [("props", .arr [.obj [("k", .str "")], .obj [("k", .int 3), ("v", .str "on")]])])])]

/-- It is read, with the property that has a key, and read again as it is; so is the profile of a first draft
with a last will. -/
theorem oddly_stored_profile_reread :
    (∃ profile, Profile.ofJson Profile.oddlyStored = .ok profile
        ∧ profile.configuration.userProperties = [⟨.str "3", .str "on"⟩]
        ∧ Profile.ofJson profile.toJson = .ok profile)
      ∧ ∃ assembly g' credentials,
        (Draft.withReport (.ofStep 0 7)).assemble (Memory.credentialStore Draft.countingSupply) none (.ofStep 0 7)
            (.ofCredentials []) = (.ok assembly, g', credentials)
          ∧ Profile.ofJson assembly.profile.toJson = .ok assembly.profile := by
  constructor
  · have hread : Profile.ofJson Profile.oddlyStored = .ok _ := rfl
    exact ⟨_, hread, rfl, profile_reread.1 _ _ hread⟩
  · have htexts : (Draft.withReport (.ofStep 0 7)).TextsTyped := by
      refine ⟨⟨_, rfl⟩, ⟨_, rfl⟩, ⟨_, rfl⟩, ?_, ?_⟩
      · intro profile hediting
        cases hediting
      · intro property hproperty
        cases hproperty
    have hwill : ∀ will, (Draft.withReport (.ofStep 0 7)).lastWill = some will → will.FieldsTyped := by
      rintro will ⟨⟩
      exact ⟨trivial, ⟨_, rfl⟩, ⟨_, rfl⟩⟩
    have hcheck : (Draft.withReport (.ofStep 0 7)).check = .ok ⟨60, 30000, 1000⟩ := by decide +kernel
    have hlinked := Draft.linkedReference_memory Draft.countingSupply
      (show (Draft.withReport (.ofStep 0 7)).credentialMode = .auto from rfl) trivial trivial
      (.ofCredentials [])
    have hassemble := Draft.assemble_of_linked _ none (.ofStep 0 7) _ hcheck hlinked rfl
    exact ⟨_, _, _, hassemble, profile_reread.2 _ _ _ _ _ _ _ _ _ htexts hwill hassemble⟩

end MqttProfile
