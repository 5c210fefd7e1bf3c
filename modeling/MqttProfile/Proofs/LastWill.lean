import MqttProfile.Assembly.Basic
import MqttProfile.Proofs.Entered
import MqttProfile.Proofs.Json.RoundTrip

/-!
# Last wills between forms and messages

A last will is stored as a message, with a structured payload as text, and opened again as it was.  Only
what was trimmed before it was stored stays as it is when it is stored once more.  Encoding fails for one
reason: a structured payload that would be stored cannot be written.  `encode_eq_ite` says so, and everything
else is about `message?`, the message there would be.
-/

namespace MqttProfile

namespace LastWill

@[simp]
theorem trimmed_trimmed (will : LastWill) : will.trimmed.trimmed = will.trimmed := by
  simp only [LastWill.trimmed, Json.trimmed_trimmed]

/-- Trimming leaves a structured payload alone. -/
theorem payload_trimmed_of_structured {will : LastWill}
    (h : will.trimmed.payload.isStructured = true) : will.trimmed.payload = will.payload := by
  cases hpayload : will.payload with
  | null | bool _ | int _ | float _ | arr _ | obj _ =>
    rw [LastWill.trimmed, hpayload]
    rfl
  | str s =>
    rw [LastWill.trimmed, hpayload] at h
    cases h

end LastWill

/-! ## Payloads -/

/-- A payload that can be stored: a structured one has to be written for it. -/
def Json.storable (payload : Json) : Bool :=
  !payload.isStructured || payload.writable

/-- What is stored for a payload that can be stored, and its type. -/
def PayloadType.stored (payload : Json) : Json × PayloadType :=
  if payload.isStructured then (.str (payload.toText Json.compact), .json) else (payload, .string)

theorem PayloadType.encode_eq_ite (payload : Json) :
    PayloadType.encode payload
      = if payload.storable then .ok (PayloadType.stored payload) else .error .badValue := by
  rw [encode, stored, Json.storable]
  cases payload.isStructured with
  | false => rfl
  | true =>
    cases hwritable : payload.writable with
    | true => rw [Json.write_of_writable Json.compact hwritable]; rfl
    | false => rw [Json.write_of_not_writable Json.compact hwritable]; rfl

theorem PayloadType.stored_of_structured {payload : Json} (h : payload.isStructured = true) :
    PayloadType.stored payload = (.str (payload.toText Json.compact), .json) := by
  rw [stored, if_pos h]

theorem PayloadType.stored_of_not_structured {payload : Json} (h : payload.isStructured = false) :
    PayloadType.stored payload = (payload, .string) := by
  rw [stored, h, if_neg Bool.false_ne_true]

/-- A stored payload is decoded, and an exact one to what was entered. -/
theorem WillMessage.exists_decode_stored {payload : Json} {message : WillMessage}
    (hstorable : payload.storable = true)
    (hstored : (message.payload, message.payloadType) = PayloadType.stored payload) :
    ∃ decoded, message.decodePayload = .ok decoded
      ∧ ((payload.isStructured = true → payload.Exact) → decoded = payload) := by
  rw [WillMessage.decodePayload]
  cases hstructured : payload.isStructured with
  | true =>
    have hwritable : payload.writable = true := by
      rw [Json.storable, hstructured] at hstorable
      exact hstorable
    rw [PayloadType.stored_of_structured hstructured, Prod.mk.injEq] at hstored
    obtain ⟨decoded, hread, hsame⟩ := Json.exists_ofText_toText Json.lawful_compact hwritable
    rw [hstored.1, hstored.2, if_pos ⟨rfl, Json.truthy_toText Json.compact payload⟩]
    exact ⟨decoded, hread, fun hexact => hsame (hexact rfl)⟩
  | false =>
    rw [PayloadType.stored_of_not_structured hstructured, Prod.mk.injEq] at hstored
    rw [hstored.1, hstored.2, if_neg]
    · exact ⟨payload, rfl, fun _ => rfl⟩
    · intro hparts
      rcases hparts with ⟨hjson, -⟩
      cases hjson

/-! ## Messages for last wills -/

namespace LastWill

/-- The message for a last will, whether it is to be stored or not. -/
def message (will : LastWill) : WillMessage where
  topic := will.topic
  qos := will.qos
  retain := will.retain
  payload := (PayloadType.stored will.payload).1
  payloadType := (PayloadType.stored will.payload).2
  options := will.options

/-- The message to store for a last will, which is none without a topic. -/
def message? (will : LastWill) : Option WillMessage :=
  if will.topic.truthy then some will.message else none

/-- A last will that can be encoded: only where there is a topic its payload has to be stored. -/
def encodable (will : LastWill) : Bool :=
  !will.topic.truthy || will.payload.storable

theorem encode_eq_ite (will : LastWill) :
    will.encode? = if will.encodable then .ok will.message? else .error .badValue := by
  rw [encode?, encodable, message?]
  cases will.topic.truthy with
  | false => rfl
  | true =>
    rw [if_pos rfl, PayloadType.encode_eq_ite]
    cases will.payload.storable <;> rfl

theorem encode_of_encodable {will : LastWill} (h : will.encodable = true) :
    will.encode? = .ok will.message? := by
  rw [encode_eq_ite, if_pos h]

/-- A last will that can be encoded is opened from its message, and one with an exact payload as it was
entered. -/
theorem exists_open_message {will : LastWill} {message : WillMessage} (hencodable : will.encodable = true)
    (h : will.message? = some message) :
    ∃ opened, message.open? = .ok opened
      ∧ ((will.payload.isStructured = true → will.payload.Exact) → opened = will) := by
  rw [message?] at h
  split at h
  · rename_i htopic
    have hstorable : will.payload.storable = true := by
      rw [encodable, htopic] at hencodable
      exact hencodable
    cases h
    obtain ⟨decoded, hdecode, hsame⟩ : ∃ decoded, will.message.decodePayload = .ok decoded ∧ _ :=
      WillMessage.exists_decode_stored hstorable rfl
    refine ⟨_, congrArg (Except.map _) hdecode, fun hexact => ?_⟩
    rw [hsame hexact]
    rfl
  · cases h

theorem open_message {will : LastWill} {message : WillMessage} (hencodable : will.encodable = true)
    (h : will.message? = some message) (hexact : will.payload.isStructured = true → will.payload.Exact) :
    message.open? = .ok will := by
  obtain ⟨opened, hopen, hsame⟩ := exists_open_message hencodable h
  rw [hopen, hsame hexact]

theorem checkLastWill_trimmed (will : LastWill) :
    Draft.checkLastWill (some will.trimmed) = Draft.checkLastWill (some will) := by
  unfold Draft.checkLastWill
  simp only [LastWill.trimmed, Json.trimmed_trimmed]

end LastWill

/-! ## User properties -/

/-- A property that was trimmed stays as it is. -/
theorem UserProperty.trimmed_of_trimmed {property trimmed : UserProperty}
    (h : property.trimmed? = some trimmed) : trimmed.trimmed? = some trimmed := by
  rw [trimmed?] at h
  split at h
  · rename_i hkey
    cases h
    rw [trimmed?]
    dsimp only
    rw [Json.trimmed_trimmed, Json.trimmed_trimmed, if_pos hkey]
  · cases h

/-- Trimming properties that were trimmed changes nothing. -/
theorem UserProperty.filterMap_trimmed (properties : List UserProperty) :
    (properties.filterMap (·.trimmed?)).filterMap (·.trimmed?) = properties.filterMap (·.trimmed?) := by
  -- what is left of a property passes again, and what was dropped is not asked again
  rw [List.filterMap_filterMap]
  congr 1
  funext property
  cases htrimmed : property.trimmed? with
  | none => rfl
  | some trimmed => exact trimmed_of_trimmed htrimmed

end MqttProfile
