import MqttProfile.Proofs.Draft.Reached
import MqttProfile.Proofs.Json.Names
import MqttProfile.Proofs.LastWill

/-!
# Stored last wills

A message is stored as an object in which the parts that are null are left out, and what is left out is read
as null.  So a message is read as it was stored, and a last will that was entered comes back as it was.  A
stored message that did not come from there, with a JSON text of any kind in it, is another matter: the type
of a payload is not kept when the message is opened but follows anew from what the text says.

* `memberOrNull_filter` says that leaving null members out makes no difference to who looks one up;
* `WillMessage.WellTyped` is what a message has to be to be read back, and what every read one is;
* `stored_will_restored` is the way from a last will to its stored form and back;
* `json_will_reencoded` is the way from a stored message with a JSON payload to a last will and back.
-/

namespace MqttProfile

namespace Json

/-! ## Looking members up -/

/-- A member that is not among the first ones is looked up among the rest. -/
theorem memberOrNull_append_of_not_mem {key : String} {earlier : Members}
    (h : key ∉ earlier.map (·.1)) (members : Members) :
    memberOrNull key (earlier ++ members) = memberOrNull key members := by
  have hnone : List.lookup key earlier = none := by
    rw [List.lookup_eq_none_iff]
    intro member hmember
    rw [bne_iff_ne]
    rintro rfl
    exact h (List.mem_map_of_mem hmember)
  rw [memberOrNull, memberOrNull, lookup, lookup, List.lookup_append, hnone, Option.none_or]

theorem memberOrNull_of_not_mem {key : String} {members : Members} (h : key ∉ members.map (·.1)) :
    memberOrNull key members = .null := by
  rw [← List.append_nil members, memberOrNull_append_of_not_mem h]
  rfl

/-- A member at the front is found, and any other is looked up behind it. -/
theorem memberOrNull_cons (key name : String) (value : Json) (members : Members) :
    memberOrNull key ((name, value) :: members) = if key = name then value else memberOrNull key members := by
  rw [memberOrNull, lookup, List.lookup_cons]
  by_cases hname : key = name
  · rw [if_pos hname, hname, beq_self_eq_true]
    rfl
  · rw [if_neg hname, beq_eq_false_iff_ne.mpr hname]
    rfl

/-- Members that are null can be left out, as long as no name occurs twice. -/
theorem memberOrNull_filter {members : Members} (h : (members.map (·.1)).Nodup) (key : String) :
    memberOrNull key (members.filter fun (_, value) => value != .null) = memberOrNull key members := by
  induction members with
  | nil => rfl
  | cons member members ih =>
    obtain ⟨name, value⟩ := member
    rw [List.map_cons, List.nodup_cons] at h
    rw [memberOrNull_cons, ← ih h.2, List.filter_cons]
    dsimp only
    by_cases hnull : value = .null
    · have hleft : ¬ (value != .null) = true := fun hkept => bne_iff_ne.mp hkept hnull
      rw [if_neg hleft]
      split
      · -- the member that is left out has its name to itself
        rename_i hname
        rw [ih h.2, hname, memberOrNull_of_not_mem h.1, hnull]
      · rfl
    · rw [if_pos (bne_iff_ne.mpr hnull), memberOrNull_cons]

theorem IsText.not_structured {value : Json} (h : value.IsText) : value.isStructured = false := by
  cases value with
  | null | str _ => rfl
  | bool _ | int _ | float _ | arr _ | obj _ => exact h.elim

end Json

/-! ## Messages -/

theorem TimeUnit.optional_nameOrNull (unit : Option TimeUnit) :
    Json.optional TimeUnit.ofJson (TimeUnit.nameOrNull unit) = .ok unit := by
  cases unit with
  | none => rfl
  | some unit => cases unit <;> rfl

namespace WillOptions

/-- The names of the options. -/
def names : List String :=
  ["payloadFormatIndicator", "contentType", "msgExpiryInterval", "msgExpiryIntervalUnit", "willDelayInterval",
   "willDelayIntervalUnit", "responseTopic", "correlationData"]

/-- The options by name, those that are null among them. -/
def members (options : WillOptions) : Json.Members :=
  [("payloadFormatIndicator", options.payloadFormatIndicator),
   ("contentType", options.contentType),
   ("msgExpiryInterval", options.msgExpiryInterval),
   ("msgExpiryIntervalUnit", TimeUnit.nameOrNull options.msgExpiryIntervalUnit),
   ("willDelayInterval", options.willDelayInterval),
   ("willDelayIntervalUnit", TimeUnit.nameOrNull options.willDelayIntervalUnit),
   ("responseTopic", options.responseTopic),
   ("correlationData", options.correlationData)]

/-- Whoever looks an option up does not see that those that are null are left out. -/
theorem memberOrNull_toMembers (options : WillOptions) (key : String) :
    Json.memberOrNull key options.toMembers = Json.memberOrNull key options.members := by
  have hnodup : (options.members.map (·.1)).Nodup := by
    show names.Nodup
    decide
  exact Json.memberOrNull_filter hnodup key

/-- Options are read from members that hold each of them under its name. -/
theorem ofMembers_eq_ok (options : WillOptions) {stored : Json.Members}
    (h : ∀ key ∈ names, Json.memberOrNull key stored = Json.memberOrNull key options.members) :
    ofMembers stored = .ok options := by
  rw [ofMembers, h "payloadFormatIndicator" (by decide), h "contentType" (by decide),
    h "msgExpiryInterval" (by decide), h "msgExpiryIntervalUnit" (by decide),
    h "willDelayInterval" (by decide), h "willDelayIntervalUnit" (by decide), h "responseTopic" (by decide),
    h "correlationData" (by decide)]
  show (Json.optional TimeUnit.ofJson (TimeUnit.nameOrNull options.msgExpiryIntervalUnit)).bind _ = _
  rw [TimeUnit.optional_nameOrNull]
  show (Json.optional TimeUnit.ofJson (TimeUnit.nameOrNull options.willDelayIntervalUnit)).bind _ = _
  rw [TimeUnit.optional_nameOrNull]
  rfl

end WillOptions

namespace WillMessage

/-- A message as it is read: its topic is a text, its quality of service is an integer and its flag is a truth
value. -/
structure WellTyped (message : WillMessage) : Prop where
  topic : ∃ s, message.topic = .str s
  qos : ∃ n, message.qos = .int n
  retain : ∃ b, message.retain = .bool b

/-- Every message that is read is well-typed. -/
theorem wellTyped_of_ofJson {payload : Json} {message : WillMessage} (h : ofJson payload = .ok message) :
    message.WellTyped := by
  rw [ofJson] at h
  obtain ⟨topic, -, h⟩ := exists_of_bind_eq_ok h
  obtain ⟨shown, -, h⟩ := exists_of_bind_eq_ok h
  obtain ⟨members, -, h⟩ := exists_of_bind_eq_ok h
  obtain ⟨qos, -, h⟩ := exists_of_bind_eq_ok h
  obtain ⟨payloadType, -, h⟩ := exists_of_bind_eq_ok h
  obtain ⟨options, -, h⟩ := exists_of_bind_eq_ok h
  cases h
  exact ⟨⟨_, rfl⟩, ⟨_, rfl⟩, ⟨_, rfl⟩⟩

/-- A message that is read from members with a topic has one. -/
theorem truthy_topic_of_ofJson {members : Json.Members} {message : WillMessage}
    (htopic : (Json.memberOrNull "topic" members).truthy = true) (h : ofJson (.obj members) = .ok message) :
    message.topic.truthy = true := by
  rw [ofJson] at h
  obtain ⟨topic, hrequire, h⟩ := exists_of_bind_eq_ok h
  obtain ⟨shown, hshown, h⟩ := exists_of_bind_eq_ok h
  obtain ⟨members', -, h⟩ := exists_of_bind_eq_ok h
  obtain ⟨qos, -, h⟩ := exists_of_bind_eq_ok h
  obtain ⟨payloadType, -, h⟩ := exists_of_bind_eq_ok h
  obtain ⟨options, -, h⟩ := exists_of_bind_eq_ok h
  cases h
  have hsame : Json.memberOrNull "topic" members = topic := by
    rw [Json.require] at hrequire
    rw [Json.memberOrNull]
    cases hlookup : Json.lookup "topic" members with
    | none =>
      rw [hlookup] at hrequire
      cases hrequire
    | some value =>
      rw [hlookup] at hrequire
      cases hrequire
      rfl
  rw [hsame] at htopic
  rw [Json.eq_display_of_shown hshown]
  exact (Json.truthy_str_iff _).mpr (Json.display_ne_empty htopic)

/-- The members of a message that are always there. -/
def fixedMembers (message : WillMessage) : Json.Members :=
  [("topic", message.topic), ("qos", message.qos), ("retain", message.retain), ("payload", message.payload),
   ("payloadType", .str message.payloadType.name)]

/-- A well-typed message is read as it was stored. -/
theorem ofJson_toJson {message : WillMessage} (h : message.WellTyped) :
    ofJson message.toJson = .ok message := by
  obtain ⟨topic, qos, retain, payload, payloadType, options⟩ := message
  obtain ⟨⟨s, rfl⟩, ⟨n, rfl⟩, ⟨b, rfl⟩⟩ := h
  let message : WillMessage := ⟨.str s, .int n, .bool b, payload, payloadType, options⟩
  have hqos : ((Json.int n).orElse (.int 0)).toInt = .ok n := by
    by_cases hzero : n = 0
    · rw [hzero]
      rfl
    · have htruthy : (Json.int n).truthy = true := bne_iff_ne.mpr hzero
      rw [Json.orElse_of_truthy htruthy]
      rfl
  have htype : PayloadType.ofJson ((Json.str payloadType.name).orElse (.str PayloadType.string.name))
      = .ok payloadType := by
    cases payloadType <;> rfl
  have hoptions : WillOptions.ofMembers (message.fixedMembers ++ options.toMembers) = .ok options := by
    refine options.ofMembers_eq_ok fun key hkey => ?_
    have hother : key ∉ message.fixedMembers.map (·.1) := by
      show key ∉ ["topic", "qos", "retain", "payload", "payloadType"]
      revert key
      decide
    rw [Json.memberOrNull_append_of_not_mem hother, options.memberOrNull_toMembers]
  -- the other members are looked up in front of the options
  have hread : ofJson message.toJson
      = (((Json.int n).orElse (.int 0)).toInt).bind fun qos =>
        (PayloadType.ofJson ((Json.str payloadType.name).orElse (.str PayloadType.string.name))).bind fun type =>
          (WillOptions.ofMembers (message.fixedMembers ++ options.toMembers)).bind fun options =>
            .ok ⟨.str s, .int qos, .bool b, payload, type, options⟩ := rfl
  rw [hread, hqos, htype, hoptions]
  rfl

end WillMessage

/-! ## Last wills that are stored and opened -/

namespace LastWill

/-- A last will as it should be entered: with a topic, an integer as quality of service and a truth value as
flag.  The payload is null, a text, or an array or object without binary64 numbers and with no name twice in
an object. -/
structure WellTyped (will : LastWill) : Prop where
  topic : ∃ s, will.topic = .str s ∧ s ≠ ""
  qos : ∃ n, will.qos = .int n
  retain : ∃ b, will.retain = .bool b
  payload : will.payload.IsText ∨ will.payload.isStructured = true ∧ will.payload.Exact

/-- The payload of a well-typed last will can be stored exactly if it can be written: a text always can. -/
theorem WellTyped.storable_eq {will : LastWill} (h : will.WellTyped) :
    will.payload.storable = will.payload.writable := by
  rw [Json.storable]
  rcases h.payload with htext | ⟨hstructured, -⟩
  · rw [htext.not_structured, htext.writable]
    rfl
  · rw [hstructured]
    rfl

/-- A well-typed last will whose payload can be written is stored, and comes back from its stored form as it was
entered.  One whose payload cannot be written is not stored. -/
theorem stored_will_restored (will : LastWill) (h : will.WellTyped) :
    (will.payload.writable = true → ∃ message, will.encode? = .ok (some message)
        ∧ (WillMessage.ofJson message.toJson).bind WillMessage.open? = .ok will)
      ∧ (will.payload.writable = false → will.encode? = .error .badValue) := by
  obtain ⟨s, htopic, hs⟩ := h.topic
  have htruthy : will.topic.truthy = true := by
    rw [htopic]
    exact (Json.truthy_str_iff s).mpr hs
  have hencodable : will.encodable = will.payload.writable := by
    rw [encodable, htruthy, h.storable_eq]
    rfl
  refine ⟨fun hwritable => ?_, fun hunwritable => ?_⟩
  · rw [hwritable] at hencodable
    have hexact : will.payload.isStructured = true → will.payload.Exact := by
      intro hstructured
      rcases h.payload with htext | ⟨-, hexact⟩
      · rw [htext.not_structured] at hstructured
        cases hstructured
      · exact hexact
    have hmessage : will.message? = some will.message := by
      rw [message?, if_pos htruthy]
    refine ⟨will.message, ?_, ?_⟩
    · rw [encode_of_encodable hencodable, hmessage]
    · rw [WillMessage.ofJson_toJson ⟨⟨s, htopic⟩, h.qos, h.retain⟩]
      exact open_message hencodable hmessage hexact
  · rw [encode_eq_ite, hencodable, hunwritable, if_neg Bool.false_ne_true]

/-- A last will of a sensor that went away, with quotes, a line break and letters of two alphabets in its
payload. -/
def farewell : LastWill where
  topic := .str "sensors/1"
  payload := .obj
    [("sensor", .str "t\"1\"\n\u00e9\u4e16"), ("", .arr [.null, .bool false, .int (-7), .obj []]),
     ("again", .obj [("sensor", .str "\\")])]
  qos := .int 2
  retain := .bool false
  options := { WillOptions.none with contentType := .str "application/json", willDelayInterval := .int 5,
                                     willDelayIntervalUnit := some .minutes }

/-- It comes back as it was. -/
theorem farewell_restored :
    ∃ message, farewell.encode? = .ok (some message)
      ∧ (WillMessage.ofJson message.toJson).bind WillMessage.open? = .ok farewell := by
  have hexact : farewell.payload.Exact :=
    ⟨by decide, trivial, ⟨trivial, trivial, trivial, ⟨by decide, trivial⟩, trivial⟩,
      ⟨by decide, trivial, trivial⟩, trivial⟩
  have htyped : farewell.WellTyped :=
    ⟨⟨"sensors/1", rfl, by decide⟩, ⟨2, rfl⟩, ⟨false, rfl⟩, .inr ⟨rfl, hexact⟩⟩
  exact (stored_will_restored farewell htyped).1 (by decide)

/-- A last will with a reading of a sensor. -/
def reading (n : Int) : LastWill where
  topic := .str "sensors/1"
  payload := .arr [.int n]
  qos := .int 0
  retain := .bool false
  options := .none

theorem encodable_reading (n : Int) : (reading n).encodable = Text.writable n := by
  simp [encodable, reading, Json.truthy, Json.storable, Json.isStructured, Json.writable, Json.itemsWritable]

/-- A well-typed last will with a reading of too many digits is not stored. -/
theorem long_reading_not_stored :
    (reading (Nat.pow 10 Text.digitLimit)).WellTyped
      ∧ (reading (Nat.pow 10 Text.digitLimit)).encode? = .error .badValue := by
  refine ⟨⟨⟨_, rfl, by decide⟩, ⟨_, rfl⟩, ⟨_, rfl⟩, .inr ⟨rfl, trivial, trivial⟩⟩, ?_⟩
  rw [encode_eq_ite, encodable_reading, Text.not_writable_pow, if_neg Bool.false_ne_true]

end LastWill

/-! ## Messages that are opened and stored -/

namespace WillMessage

/-- The message that is stored once a message was opened, if one is. -/
def reencoded (message : WillMessage) : Except Fault (Option WillMessage) :=
  message.open?.bind (·.encode?)

theorem truthy_of_ofText {s : String} {value : Json} (h : Json.ofText s = .ok value) :
    (Json.str s).truthy = true := by
  refine (Json.truthy_str_iff s).mpr ?_
  rintro rfl
  cases h

/-- A message whose payload is JSON text is opened with what the text says. -/
theorem open_of_ofText {message : WillMessage} {text : String} {value : Json}
    (htype : message.payloadType = .json) (hpayload : message.payload = .str text)
    (htext : Json.ofText text = .ok value) :
    message.open? = .ok ⟨message.topic, value, message.qos, message.retain, message.options⟩ := by
  have htruthy : message.payload.truthy = true := by
    rw [hpayload]
    exact truthy_of_ofText htext
  rw [open?, decodePayload, if_pos ⟨htype, htruthy⟩, hpayload]
  dsimp only
  rw [htext]
  rfl

/-- A stored message whose payload is JSON text, without binary64 numbers, is stored again after it was opened
if it has a topic.  Everything but the payload is kept.  An array or object is stored as JSON text that says the
same; a text, for which the JSON stood, is stored as that text and no longer as JSON. -/
theorem json_will_reencoded (stored : Json) (message : WillMessage) (text : String) (value : Json)
    (hstored : ofJson stored = .ok message) (htype : message.payloadType = .json)
    (hpayload : message.payload = .str text) (htext : Json.ofText text = .ok value)
    (hfree : value.FloatFree) :
    ∃ again?, message.reencoded = .ok again? ∧ (again? = none ↔ message.topic = .str "")
      ∧ ∀ again, again? = some again →
        again = { message with payload := again.payload, payloadType := again.payloadType }
          ∧ (value.isStructured = true → again.payloadType = .json
            ∧ ∃ printed, again.payload = .str printed ∧ Json.ofText printed = .ok value)
          ∧ (value.IsText → again.payloadType = .string ∧ again.payload = value) := by
  obtain ⟨s, htopic⟩ := (wellTyped_of_ofJson hstored).topic
  let will : LastWill := ⟨message.topic, value, message.qos, message.retain, message.options⟩
  have hopen : message.open? = .ok will := open_of_ofText htype hpayload htext
  -- what was read can be written, so it can be stored
  have hencodable : will.encodable = true := by
    rw [LastWill.encodable, Json.storable, Json.writable_of_ofText htext, Bool.or_true, Bool.or_true]
  have hreencoded : message.reencoded = .ok will.message? := by
    rw [reencoded, hopen, bind_ok, LastWill.encode_of_encodable hencodable]
  refine ⟨will.message?, hreencoded, ?_, fun again hagain => ?_⟩
  · have htruthy : will.topic.truthy = true ↔ ¬ message.topic = .str "" := by
      rw [htopic, Json.str.injEq, ← Ne, ← Json.truthy_str_iff, ← htopic]
    rw [LastWill.message?, ite_eq_right_iff, htruthy]
    exact ⟨fun hnone => not_not.mp fun hne => absurd (hnone hne) (Option.some_ne_none _),
      fun hempty hne => absurd hempty hne⟩
  · rw [LastWill.message?] at hagain
    split at hagain
    · cases hagain
      refine ⟨rfl, fun hstructured => ?_, fun hplain => ?_⟩
      · have hstored := PayloadType.stored_of_structured hstructured
        exact ⟨congrArg Prod.snd hstored, _, congrArg Prod.fst hstored,
          Json.ofText_toText_of_ofText Json.lawful_compact htext hfree⟩
      · have hstored := PayloadType.stored_of_not_structured hplain.not_structured
        exact ⟨congrArg Prod.snd hstored, congrArg Prod.fst hstored⟩
    · cases hagain

/-- A stored message about a sensor, whose payload is JSON text. -/
def storedStatus (topic text : String) : Json :=
  .obj
    [("topic", .str topic), ("qos", .int 1), ("retain", .bool true), ("payload", .str text),
     ("payloadType", .str "JSON")]

/-- An array that holds an object is read, opened and stored again as JSON text that says the same. -/
theorem status_reencoded :
    ∃ message again printed, ofJson (storedStatus "status" "[ 1, \x7b\"a\": null\x7d ]") = .ok message
      ∧ message.reencoded = .ok (some again) ∧ again.payloadType = .json ∧ again.payload = .str printed
      ∧ Json.ofText printed = .ok (.arr [.int 1, .obj [("a", .null)]]) := by
  let text := "[ 1, \x7b\"a\": null\x7d ]"
  let message : WillMessage := ⟨.str "status", .int 1, .bool true, .str text, .json, .none⟩
  let value : Json := .arr [.int 1, .obj [("a", .null)]]
  have hstored : ofJson (storedStatus "status" text) = .ok message := rfl
  have htext : Json.ofText text = .ok value := by decide +kernel
  obtain ⟨again?, hreencoded, hnone, hsome⟩ := json_will_reencoded (storedStatus "status" text) message text value
    hstored rfl rfl htext ⟨trivial, ⟨trivial, trivial⟩, trivial⟩
  cases again? with
  | none => exact absurd (hnone.mp rfl) (by decide)
  | some again =>
    obtain ⟨-, hstructured, -⟩ := hsome again rfl
    obtain ⟨htype, printed, hpayload, hread⟩ := hstructured rfl
    exact ⟨message, again, printed, hstored, hreencoded, htype, hpayload, hread⟩

/-- A string or a number that was stored as JSON text is no longer marked as JSON once its message was opened
and stored again, a message without a topic is gone, and one with a number of too many digits is not opened. -/
theorem quoted_status_retyped :
    Json.ofText "\"offline\"" = .ok (.str "offline")
      ∧ (ofJson (storedStatus "status" "\"offline\"")).bind reencoded
        = .ok (some ⟨.str "status", .int 1, .bool true, .str "offline", .string, .none⟩)
      ∧ Json.ofText "42" = .ok (.int 42)
      ∧ (ofJson (storedStatus "status" "42")).bind reencoded
        = .ok (some ⟨.str "status", .int 1, .bool true, .int 42, .string, .none⟩)
      ∧ Json.ofText "[1]" = .ok (.arr [.int 1])
      ∧ (ofJson (storedStatus "" "[1]")).bind reencoded = .ok none
      ∧ (ofJson (storedStatus "status" (Text.decimal (Nat.pow 10 Text.digitLimit)))).bind reencoded
        = .error .badValue := by
  refine ⟨?_, ?_, ?_, ?_, ?_, ?_, ?_⟩
  · decide +kernel
  · decide +kernel
  · decide +kernel
  · decide +kernel
  · decide +kernel
  · decide +kernel
  · have htruthy : (Json.str (Text.decimal (Nat.pow 10 Text.digitLimit))).truthy = true :=
      Json.truthy_toText Json.compact (.int (Nat.pow 10 Text.digitLimit))
    let message : WillMessage :=
      ⟨.str "status", .int 1, .bool true, .str (Text.decimal (Nat.pow 10 Text.digitLimit)), .json, .none⟩
    have hstored : ofJson (storedStatus "status" (Text.decimal (Nat.pow 10 Text.digitLimit))) = .ok message := rfl
    have hopen : message.open? = .error .badValue := by
      rw [open?, decodePayload, if_pos ⟨rfl, htruthy⟩]
      exact congrArg (Except.map _) (Json.ofText_decimal_of_not_writable Text.not_writable_pow)
    rw [hstored, bind_ok, reencoded, hopen]
    rfl

end WillMessage

end MqttProfile
