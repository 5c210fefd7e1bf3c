import MqttProfile.Proofs.Draft.WellFormed
import MqttProfile.Proofs.Entered
import MqttProfile.Proofs.Measure

/-!
# Legal drafts

What a draft has to look like to pass its check, said without the check.  The check goes through some
fifteen fields in order and stops at the first that is wrong, so the proof goes through them as well:
`Checks` says of one piece of it what it lets pass and that everything else is reported as a field of a
step, and pieces that follow each other let pass what both do.

* `demand`, `demandInt`, `demandBetween` and `demandNatural` are such pieces;
* `checkIdentity`, `checkAdvanced` and `checkLastWill` are put together from them;
* `check_succeeds_iff_legal` is the whole, for every draft that a flow reaches.
-/

namespace MqttProfile

/-! ## Checks -/

/-- An outcome that yields exactly the values with a property, and otherwise reports a field. -/
structure Checks {α : Type} (outcome : Except Error α) (P : α → Prop) : Prop where
  passes : ∀ a, outcome = .ok a ↔ P a
  reports : ∀ error, outcome = .error error → ∃ step field reason, error = .structural step field reason

namespace Checks

variable {α β : Type} {outcome : Except Error α} {P : α → Prop}

theorem congr {P' : α → Prop} (h : Checks outcome P) (heq : ∀ a, P a ↔ P' a) : Checks outcome P' :=
  ⟨fun a => (h.passes a).trans (heq a), h.reports⟩

/-- A value passes as itself. -/
theorem ok (a : α) : Checks (.ok a : Except Error α) (a = ·) := by
  constructor
  · intro b
    constructor
    · intro h
      cases h
      rfl
    · rintro rfl
      rfl
  · intro error h
    cases h

/-- Two pieces that follow each other let pass what both do. -/
theorem bind {rest : α → Except Error β} {Q : α → β → Prop} (h : Checks outcome P)
    (hrest : ∀ a, P a → Checks (rest a) (Q a)) :
    Checks (outcome >>= rest) fun b => ∃ a, P a ∧ Q a b := by
  cases houtcome : outcome with
  | error error =>
    -- the rest is never reached, so its report is none of the whole
    constructor
    · intro b
      constructor
      · intro hok
        cases hok
      · intro hexists
        rcases hexists with ⟨a, ha, -⟩
        rw [← h.passes a, houtcome] at ha
        cases ha
    · intro error' herror
      cases herror
      exact h.reports error houtcome
  | ok a =>
    have ha := (h.passes a).mp houtcome
    constructor
    · intro b
      constructor
      · intro hok
        exact ⟨a, ha, ((hrest a ha).passes b).mp hok⟩
      · intro hexists
        rcases hexists with ⟨a', ha', hb⟩
        rw [← h.passes a', houtcome] at ha'
        cases ha'
        exact ((hrest a ha).passes b).mpr hb
    · exact (hrest a ha).reports

/-- A piece that yields nothing is followed by another one. -/
theorem andThen {p : Prop} {check : Except Error Unit} {rest : Except Error β} {Q : β → Prop}
    (h : Checks check fun _ => p) (hrest : Checks rest Q) :
    Checks (check >>= fun _ => rest) fun b => p ∧ Q b := by
  refine (h.bind fun _ _ => hrest).congr fun b => ?_
  constructor
  · intro hparts
    rcases hparts with ⟨-, hp, hb⟩
    exact ⟨hp, hb⟩
  · intro hparts
    rcases hparts with ⟨hp, hb⟩
    exact ⟨(), hp, hb⟩

/-- A report lets nothing pass. -/
theorem report (step : Step) (field : String) (reason : Reason) (hno : ∀ a, ¬ P a) :
    Checks (.error (.structural step field reason)) P := by
  constructor
  · intro a
    constructor
    · intro h
      cases h
    · intro ha
      exact absurd ha (hno a)
  · intro error h
    cases h
    exact ⟨step, field, reason, rfl⟩

/-- A value passes under a condition and reports a field otherwise. -/
theorem provided (p : Prop) [Decidable p] (step : Step) (field : String) (reason : Reason) (a : α) :
    Checks (if p then .ok a else .error (.structural step field reason)) fun b => p ∧ a = b := by
  by_cases hp : p
  · rw [if_pos hp]
    exact (ok a).congr fun b => (and_iff_right hp).symm
  · rw [if_neg hp]
    exact report step field reason fun b hb => hp hb.1

/-- A piece that is only gone through under a condition. -/
theorem guarded {p : Prop} (q : Prop) [Decidable q] {check : Except Error Unit}
    (h : Checks check fun _ => p) : Checks (if q then check else .ok ()) fun _ => q → p := by
  by_cases hq : q
  · rw [if_pos hq]
    exact h.congr fun _ => ⟨fun hp _ => hp, fun hall => hall hq⟩
  · rw [if_neg hq]
    refine (ok ()).congr fun a => ?_
    exact iff_of_true rfl fun h => absurd h hq

end Checks

namespace Draft

/-! ## Fields -/

/-- A value passes that was given. -/
theorem checks_demand (step : MqttProfile.Step) (name : String) (field : Field Json) :
    Checks (demand step name field) fun _ => field.value.Given := by
  rw [demand]
  cases hmissing : field.value.missing with
  | true =>
    rw [if_pos rfl]
    exact .report step name .required fun _ => (Json.missing_eq_true_iff field.value).mp hmissing
  | false =>
    have hgiven := (Json.missing_eq_false_iff field.value).mp hmissing
    rw [if_neg Bool.false_ne_true]
    exact (Checks.ok ()).congr fun _ => iff_of_true rfl hgiven

theorem checks_demandOpen (step : MqttProfile.Step) (name : String) (field : Field Json) :
    Checks (demandOpen step name field) fun _ =>
      field.enabled = true ∧ field.required = true → field.value.Given := by
  rw [← Bool.and_eq_true]
  exact Checks.guarded _ (checks_demand step name field)

/-- A value passes that is an integer. -/
theorem checks_demandInt (step : MqttProfile.Step) (name : String) (field : Field Json) :
    Checks (demandInt step name field) fun n => field.value = .int n := by
  rw [demandInt]
  cases hdemand : demand step name field with
  | error error =>
    obtain ⟨step', name', reason, rfl⟩ := (checks_demand step name field).reports error hdemand
    refine .report step' name' reason fun n hn => ?_
    -- an integer is given
    have hok := ((checks_demand step name field).passes ()).mpr (by rw [hn]; trivial)
    rw [hok] at hdemand
    cases hdemand
  | ok _ =>
    dsimp only
    cases hvalue : field.value with
    | int n =>
      refine (Checks.ok n).congr fun m => ?_
      rw [Json.int.injEq]
    | null | bool _ | float _ | str _ | arr _ | obj _ =>
      refine .report step name .notWhole fun n hn => ?_
      cases hn

/-- A value passes that is an integer with a property. -/
theorem checks_demandInt_provided (p : Int → Prop) [DecidablePred p] (step : MqttProfile.Step)
    (name : String) (reason : Reason) (field : Field Json) :
    Checks (demandInt step name field >>= fun n =>
        if p n then .ok n else .error (.structural step name reason))
      fun n => field.value = .int n ∧ p n := by
  refine ((checks_demandInt step name field).bind fun n _ =>
    Checks.provided (p n) step name reason n).congr fun n => ?_
  constructor
  · intro hexists
    rcases hexists with ⟨m, hm, hp, rfl⟩
    exact ⟨hm, hp⟩
  · intro hparts
    rcases hparts with ⟨hn, hp⟩
    exact ⟨n, hn, hp, rfl⟩

/-- A value passes that is an integer within bounds. -/
theorem checks_demandBetween (step : MqttProfile.Step) (name : String) (low high : Int)
    (field : Field Json) :
    Checks (demandBetween step name low high field) fun n =>
      field.value = .int n ∧ low ≤ n ∧ n ≤ high := by
  have hbind : demandBetween step name low high field
      = demandInt step name field >>= fun n =>
        if low ≤ n ∧ n ≤ high then .ok n
        else .error (.structural step name (.notBetween low high)) := by
    rw [demandBetween]
    cases demandInt step name field <;> rfl
  rw [hbind]
  exact checks_demandInt_provided (fun n => low ≤ n ∧ n ≤ high) step name _ field

/-- A value passes that is an integer and not negative. -/
theorem checks_demandNatural (step : MqttProfile.Step) (name : String) (field : Field Json) :
    Checks (demandNatural step name field) fun n => field.value = .int n ∧ 0 ≤ n := by
  have hbind : demandNatural step name field
      = demandInt step name field >>= fun n =>
        if 0 ≤ n then .ok n else .error (.structural step name .negative) := by
    rw [demandNatural]
    cases demandInt step name field with
    | error _ => rfl
    | ok n =>
      show (if n < 0 then _ else _) = if 0 ≤ n then _ else _
      by_cases hn : n < 0
      · rw [if_pos hn, if_neg (by omega)]
      · rw [if_neg hn, if_pos (by omega)]
  rw [hbind]
  exact checks_demandInt_provided (fun n => 0 ≤ n) step name _ field

end Draft

/-! ## Legal steps -/

/-- An integer between two bounds. -/
def Json.IsBetween (value : Json) (low high : Int) : Prop :=
  ∃ n, value = .int n ∧ low ≤ n ∧ n ≤ high

/-- An integer that is not negative. -/
def Json.IsNatural (value : Json) : Prop :=
  ∃ n, value = .int n ∧ 0 ≤ n

/-- An integer that a field with a largest value admits in a unit. -/
def Json.IsAdmitted (value : Json) (field : Bounded) (unit : Measure) : Prop :=
  ∃ n, value = .int n ∧ field.admits n unit = .ok true

/-- What an identity has to hold in each mode. -/
structure Identity.Legal (identity : Identity) : Prop where
  generated : identity.mode = .auto →
    identity.credentialsName.value.Given ∧ identity.clientId.value.Given
  clientId : identity.mode ≠ .auto → identity.clientId.enabled = true → identity.clientId.value.Given
  password : identity.mode ≠ .auto → identity.password.enabled = true →
    identity.password.required = true → identity.password.value.Given
  attached : identity.mode = .existing → identity.reference.value ≠ none

/-- What the properties of version 5 have to be. -/
structure Version5Properties.Legal (properties : Version5Properties) : Prop where
  sessionExpiryInterval : properties.sessionExpiryInterval.value.IsAdmitted .sessionExpiryInterval
    (.time properties.sessionExpiryIntervalUnit.value)
  maxPacketSize : properties.maxPacketSize.value.IsAdmitted .maxPacketSize
    (.size properties.maxPacketSizeUnit.value)
  topicAliasMax : properties.topicAliasMax.value.IsBetween 0 65535
  receiveMax : properties.receiveMax.value.IsBetween 1 65535

/-- What the advanced step has to hold; the properties of version 5 only matter in that version. -/
structure AdvancedStep.Legal (advanced : AdvancedStep) : Prop where
  keepAlive : advanced.keepAlive.value.IsAdmitted .keepAlive (.time advanced.keepAliveUnit.value)
  connectTimeout : advanced.connectTimeout.value.IsNatural
  reconnectPeriod : advanced.reconnectPeriod.value.IsNatural
  properties : advanced.mqttVersion = .v5 → advanced.properties.Legal

namespace LastWill

/-- The last will has a topic. -/
def HasTopic (will : LastWill) : Prop :=
  will.topic.trimmed.truthy = true

/-- What a last will has to hold; one without a topic may hold anything. -/
structure Legal (will : LastWill) : Prop where
  qos : will.HasTopic → ∃ n, will.qos.count? = some n ∧ 0 ≤ n ∧ n ≤ 2
  msgExpiryInterval : will.HasTopic → ∀ n, will.options.msgExpiryInterval.count? = some n → 0 ≤ n
  willDelayInterval : will.HasTopic → ∀ n, will.options.willDelayInterval.count? = some n → 0 ≤ n

/-- The numbers of the last will are integers, or null where they may be left out. -/
structure Counted (will : LastWill) : Prop where
  qos : ∃ n, will.qos.count? = some n
  msgExpiryInterval : will.options.msgExpiryInterval = .null
    ∨ ∃ n, will.options.msgExpiryInterval.count? = some n
  willDelayInterval : will.options.willDelayInterval = .null
    ∨ ∃ n, will.options.willDelayInterval.count? = some n

end LastWill

namespace Draft

/-- What a draft has to look like to pass its check. -/
structure Legal (draft : Draft) : Prop where
  name : draft.connection.name.value.Given
  url : draft.connection.url.value.Given
  identity : draft.connection.identity.Legal
  advanced : draft.advanced.Legal
  lastWill : ∀ will, draft.lastWill = some will → will.Legal

/-! ## The connection step -/

/-- A credential passes that is attached where one has to be. -/
theorem checks_attached (identity : Identity) :
    Checks (if identity.mode = .existing ∧ identity.reference.value = none then
        .error (.structural .connection "credential_reference" .required) else .ok ())
      fun _ => identity.mode = .existing → identity.reference.value ≠ none := by
  by_cases h : identity.mode = .existing ∧ identity.reference.value = none
  · rw [if_pos h]
    exact .report .connection "credential_reference" .required fun _ hattached =>
      hattached h.1 h.2
  · rw [if_neg h]
    exact (Checks.ok ()).congr fun _ => iff_of_true rfl (not_and.mp h)

/-- The fields of an identity pass that are legal, given that the client identifier has to be filled
in. -/
theorem checks_identity {identity : Identity} (hclient : identity.clientId.required = true) :
    Checks (checkIdentity identity) fun _ => identity.Legal := by
  unfold checkIdentity
  have hattached := checks_attached identity
  cases hmode : identity.mode with
  | auto =>
    -- here both names are demanded whatever their flags are
    rw [hmode] at hattached
    refine ((checks_demand .connection "credentials_name" identity.credentialsName).andThen
      ((checks_demand .connection "client_id" identity.clientId).andThen hattached)).congr
        fun _ => ?_
    constructor
    · intro hparts
      rcases hparts with ⟨hname, hid, -⟩
      exact ⟨fun _ => ⟨hname, hid⟩, fun hne => absurd hmode hne, fun hne => absurd hmode hne,
        fun hexisting => by rw [hmode] at hexisting; cases hexisting⟩
    · intro h
      obtain ⟨hname, hid⟩ := h.generated hmode
      exact ⟨hname, hid, fun hexisting => by cases hexisting⟩
  | custom | existing =>
    -- here a closed field is passed over
    rw [hmode] at hattached
    refine ((checks_demandOpen .connection "client_id" identity.clientId).andThen
      ((checks_demandOpen .connection "password" identity.password).andThen hattached)).congr
        fun _ => ?_
    have hne : identity.mode ≠ .auto := by
      rw [hmode]
      decide
    constructor
    · intro hparts
      rcases hparts with ⟨hid, hpassword, hreference⟩
      exact ⟨fun hauto => absurd hauto hne, fun _ henabled => hid ⟨henabled, hclient⟩,
        fun _ henabled hrequired => hpassword ⟨henabled, hrequired⟩,
        fun hexisting => hreference (hmode ▸ hexisting)⟩
    · intro h
      exact ⟨fun hopen => h.clientId hne hopen.1, fun hopen => h.password hne hopen.1 hopen.2,
        fun hexisting => h.attached (hmode.trans hexisting)⟩

/-! ## The advanced step -/

/-- An integer passes that the field admits in its unit. -/
theorem checks_admitted (bounded : Bounded) (unit : Measure) {bound : Int}
    (hbound : bounded.largest unit = .ok bound) (step : MqttProfile.Step) (name : String)
    (field : Field Json) :
    Checks (demandBetween step name 0 bound field) fun n =>
      field.value = .int n ∧ bounded.admits n unit = .ok true := by
  refine (checks_demandBetween step name 0 bound field).congr fun n => ?_
  rw [Bounded.admits_iff hbound]

/-- The properties of version 5 pass that are legal. -/
theorem checks_properties (p : Version5Properties) :
    Checks (checkProperties p) fun _ => p.Legal := by
  have hexpiry := checks_admitted .sessionExpiryInterval (.time p.sessionExpiryIntervalUnit.value) rfl
    .advanced "session_expiry_interval" p.sessionExpiryInterval
  have hpacket := checks_admitted .maxPacketSize (.size p.maxPacketSizeUnit.value) rfl .advanced
    "max_packet_size" p.maxPacketSize
  have halias := checks_demandBetween .advanced "topic_alias_max" 0 maxTwoByteInteger p.topicAliasMax
  have hreceive := checks_demandBetween .advanced "receive_max" 1 maxTwoByteInteger p.receiveMax
  refine (hexpiry.bind fun _ _ => hpacket.bind fun _ _ => halias.bind fun _ _ =>
    hreceive.bind fun _ _ => Checks.ok ()).congr fun _ => ?_
  constructor
  · intro hexists
    rcases hexists with ⟨expiry, he, packet, hp, topic, ht, receive, hr, -⟩
    exact ⟨⟨expiry, he⟩, ⟨packet, hp⟩, ⟨topic, ht⟩, ⟨receive, hr⟩⟩
  · intro hlegal
    rcases hlegal with ⟨⟨expiry, he⟩, ⟨packet, hp⟩, ⟨topic, ht⟩, ⟨receive, hr⟩⟩
    exact ⟨expiry, he, packet, hp, topic, ht, receive, hr, rfl⟩

/-- The numbers of the advanced step are these. -/
structure Numbers (advanced : AdvancedStep) (intervals : Intervals) : Prop where
  keepAlive : advanced.keepAlive.value = .int intervals.keepAlive
  connectTimeout : advanced.connectTimeout.value = .int intervals.connectTimeout
  reconnectPeriod : advanced.reconnectPeriod.value = .int intervals.reconnectPeriod

/-- The advanced step passes when it is legal, with its numbers. -/
theorem checks_advanced (a : AdvancedStep) :
    Checks (checkAdvanced a) fun intervals => a.Legal ∧ Numbers a intervals := by
  have hkeep := checks_admitted .keepAlive (.time a.keepAliveUnit.value) rfl .advanced "keep_alive"
    a.keepAlive
  have hconnect := checks_demandNatural .advanced "connect_timeout" a.connectTimeout
  have hreconnect := checks_demandNatural .advanced "reconnect_period" a.reconnectPeriod
  have hversion : supportsVersion5 a.mqttVersion.level = true ↔ a.mqttVersion = .v5 := by
    cases a.mqttVersion <;> decide
  have hproperties := (checks_properties a.properties).guarded
    (supportsVersion5 a.mqttVersion.level = true)
  have hsplit : checkAdvanced a
      = demandBetween .advanced "keep_alive" 0 (Bounded.maxKeepAlive a.keepAliveUnit.value) a.keepAlive
        >>= fun keepAlive => demandNatural .advanced "connect_timeout" a.connectTimeout
        >>= fun connectTimeout => demandNatural .advanced "reconnect_period" a.reconnectPeriod
        >>= fun reconnectPeriod =>
          (if supportsVersion5 a.mqttVersion.level = true then checkProperties a.properties else .ok ())
        >>= fun _ => .ok ⟨keepAlive, connectTimeout, reconnectPeriod⟩ := by
    unfold checkAdvanced
    split <;> rfl
  -- the numbers are those that passed, so the witnesses of the pieces are determined
  rw [hsplit]
  refine (hkeep.bind fun keepAlive _ => hconnect.bind fun connectTimeout _ =>
    hreconnect.bind fun reconnectPeriod _ => hproperties.andThen
      (Checks.ok (Intervals.mk keepAlive connectTimeout reconnectPeriod))).congr fun intervals => ?_
  rw [hversion]
  constructor
  · intro hexists
    rcases hexists with ⟨keepAlive, hk, connectTimeout, hc, reconnectPeriod, hr, hp, rfl⟩
    exact ⟨⟨⟨keepAlive, hk⟩, ⟨connectTimeout, hc⟩, ⟨reconnectPeriod, hr⟩, hp⟩, ⟨hk.1, hc.1, hr.1⟩⟩
  · intro hparts
    rcases hparts with ⟨⟨⟨keepAlive, hk⟩, ⟨connectTimeout, hc⟩, ⟨reconnectPeriod, hr⟩, hp⟩, hnumbers⟩
    refine ⟨keepAlive, hk, connectTimeout, hc, reconnectPeriod, hr, hp, ?_⟩
    have hkeepAlive := hk.1.symm.trans hnumbers.keepAlive
    have hconnectTimeout := hc.1.symm.trans hnumbers.connectTimeout
    have hreconnectPeriod := hr.1.symm.trans hnumbers.reconnectPeriod
    cases intervals
    cases hkeepAlive
    cases hconnectTimeout
    cases hreconnectPeriod
    rfl

/-! ## The last will -/

/-- An integer or a truth value is compared by what it counts. -/
theorem compareInt_of_count {value : Json} {n : Int} (h : value.count? = some n) (m : Int) :
    value.compareInt m = .ok (some (compare n m)) := by
  cases value with
  | bool _ | int _ =>
    cases h
    rfl
  | null | float _ | str _ | arr _ | obj _ => cases h

/-- An integer or a truth value lies between zero and a bound as what it counts does. -/
theorem within_of_count {value : Json} {n : Int} (h : value.count? = some n) (high : Int) :
    within value high = .ok (decide (0 ≤ n ∧ n ≤ high)) := by
  have hlow : some (compare n 0) = some Ordering.eq ∨ some (compare n 0) = some Ordering.gt ↔ 0 ≤ n := by
    rw [Option.some.injEq, Option.some.injEq, Int.compare_eq_eq, Int.compare_eq_gt]
    omega
  have htop : some (compare n high) = some Ordering.eq ∨ some (compare n high) = some Ordering.lt
      ↔ n ≤ high := by
    rw [Option.some.injEq, Option.some.injEq, Int.compare_eq_eq, Int.compare_eq_lt]
    omega
  -- the upper bound is only looked at once the lower one holds
  rw [within, compareInt_of_count h 0, compareInt_of_count h high]
  by_cases hn : 0 ≤ n
  · refine (if_pos (hlow.mpr hn)).trans ?_
    exact congrArg Except.ok (decide_eq_decide.mpr (htop.trans (and_iff_right hn).symm))
  · refine (if_neg fun hno => hn (hlow.mp hno)).trans ?_
    show Except.ok false = _
    rw [decide_eq_false fun hno => hn hno.1]

/-- A quality of service passes that lies between zero and two. -/
theorem checks_qos {value : Json} (h : ∃ n, value.count? = some n) :
    Checks (liftFault (within value maxQos) >>= fun inside =>
        if inside = true then .ok () else .error (.structural .lastWill "qos" (.notBetween 0 maxQos)))
      fun _ => ∃ n, value.count? = some n ∧ 0 ≤ n ∧ n ≤ 2 := by
  obtain ⟨n, hn⟩ := h
  rw [within_of_count hn]
  show Checks (if decide (0 ≤ n ∧ n ≤ 2) = true then _ else _) _
  refine (Checks.provided (decide (0 ≤ n ∧ n ≤ 2) = true) .lastWill "qos" _ ()).congr fun _ => ?_
  rw [decide_eq_true_eq]
  constructor
  · intro hparts
    rcases hparts with ⟨hbounds, -⟩
    exact ⟨n, hn, hbounds⟩
  · intro hexists
    rcases hexists with ⟨m, hm, hbounds⟩
    rw [hn] at hm
    cases hm
    exact ⟨hbounds, rfl⟩

/-- An interval passes that is null or an integer that is not negative. -/
theorem checks_interval {value : Json} (h : value = .null ∨ ∃ n, value.count? = some n)
    (name : String) :
    Checks (checkInterval name value) fun _ => ∀ n, value.count? = some n → 0 ≤ n := by
  rw [checkInterval]
  rcases h with rfl | ⟨n, hn⟩
  · rw [if_pos rfl]
    exact (Checks.ok ()).congr fun _ => iff_of_true rfl fun n hn => nomatch hn
  · have hnull : value ≠ .null := by
      rintro rfl
      cases hn
    have hone : (∀ m, value.count? = some m → 0 ≤ m) ↔ 0 ≤ n := by
      constructor
      · intro hall
        exact hall n hn
      · intro hnatural m hm
        rw [hn] at hm
        cases hm
        exact hnatural
    rw [if_neg hnull, compareInt_of_count hn, hone]
    cases horder : compare n 0 with
    | lt =>
      have hneg := Int.compare_eq_lt.mp horder
      exact .report .lastWill name .negative fun _ hnatural => by omega
    | eq =>
      have hzero := Int.compare_eq_eq.mp horder
      exact (Checks.ok ()).congr fun _ => iff_of_true rfl (by omega)
    | gt =>
      have hpos := Int.compare_eq_gt.mp horder
      exact (Checks.ok ()).congr fun _ => iff_of_true rfl (by omega)

/-- A last will passes that is legal, given that its numbers are integers. -/
theorem checks_lastWill {will : LastWill} (h : will.Counted) :
    Checks (checkLastWill (some will)) fun _ => will.Legal := by
  have hpieces := (checks_qos h.qos).andThen
    ((checks_interval h.msgExpiryInterval "msg_expiry_interval").andThen
      (checks_interval h.willDelayInterval "will_delay_interval"))
  have hsplit : checkLastWill (some will)
      = if will.topic.trimmed.truthy = true then
          (liftFault (within will.qos maxQos) >>= fun inside =>
            if inside = true then .ok ()
            else .error (.structural .lastWill "qos" (.notBetween 0 maxQos)))
          >>= fun _ => checkInterval "msg_expiry_interval" will.options.msgExpiryInterval
          >>= fun _ => checkInterval "will_delay_interval" will.options.willDelayInterval
        else .ok () := by
    unfold checkLastWill
    dsimp only
    by_cases htopic : will.topic.trimmed.truthy = true
    · rw [if_pos htopic, if_pos htopic]
      cases liftFault (within will.qos maxQos) with
      | error _ => rfl
      | ok inside => cases inside <;> rfl
    · rw [if_neg htopic, if_neg htopic]
      rfl
  rw [hsplit]
  refine (hpieces.guarded (will.topic.trimmed.truthy = true)).congr fun _ => ?_
  constructor
  · intro hall
    exact ⟨fun htopic => (hall htopic).1, fun htopic => (hall htopic).2.1,
      fun htopic => (hall htopic).2.2⟩
  · intro hlegal htopic
    exact ⟨hlegal.qos htopic, hlegal.msgExpiryInterval htopic, hlegal.willDelayInterval htopic⟩

/-! ## The whole -/

/-- The connection step of a well-formed draft passes when its fields are legal. -/
theorem checks_connection {draft : Draft} (hdraft : draft.WellFormed) :
    Checks (checkConnection draft.connection) fun _ =>
      draft.connection.name.value.Given ∧ draft.connection.url.value.Given
        ∧ draft.connection.identity.Legal := by
  have hname := checks_demandOpen .connection "name" draft.connection.name
  have hurl := checks_demandOpen .connection "url" draft.connection.url
  have hidentity := checks_identity hdraft.identity.clientId
  refine (hname.andThen (hurl.andThen hidentity)).congr fun _ => ?_
  constructor
  · intro hparts
    rcases hparts with ⟨hn, hu, hi⟩
    exact ⟨hn hdraft.name, hu hdraft.url, hi⟩
  · intro hparts
    rcases hparts with ⟨hn, hu, hi⟩
    exact ⟨fun _ => hn, fun _ => hu, hi⟩

/-- A draft passes its check when its three checked steps pass. -/
theorem check_eq_ok_iff (draft : Draft) (intervals : Intervals) :
    draft.check = .ok intervals
      ↔ checkConnection draft.connection = .ok () ∧ checkAdvanced draft.advanced = .ok intervals
        ∧ checkLastWill draft.lastWill = .ok () := by
  constructor
  · intro h
    obtain ⟨_, hconnection, h⟩ := exists_of_bind_eq_ok h
    obtain ⟨_, hadvanced, h⟩ := exists_of_bind_eq_ok h
    obtain ⟨_, hlastWill, h⟩ := exists_of_bind_eq_ok h
    cases h
    exact ⟨hconnection, hadvanced, hlastWill⟩
  · intro hparts
    rcases hparts with ⟨hconnection, hadvanced, hlastWill⟩
    rw [check, hconnection, hadvanced, hlastWill]
    rfl

/-- A draft passes its check when it is legal, with the numbers of its advanced step. -/
theorem checks_check {draft : Draft} (hdraft : draft.WellFormed)
    (hwill : ∀ will, draft.lastWill = some will → will.Counted) :
    Checks draft.check fun intervals => draft.Legal ∧ Numbers draft.advanced intervals := by
  have hconnection := checks_connection hdraft
  have hadvanced := checks_advanced draft.advanced
  have hlastWill : Checks (checkLastWill draft.lastWill) fun _ =>
      ∀ will, draft.lastWill = some will → will.Legal := by
    cases hsome : draft.lastWill with
    | none => exact (Checks.ok ()).congr fun _ => iff_of_true rfl fun will h => nomatch h
    | some will =>
      refine (checks_lastWill (hwill will hsome)).congr fun _ => ?_
      constructor
      · rintro hlegal _ ⟨⟩
        exact hlegal
      · intro hall
        exact hall will rfl
  refine (hconnection.andThen (hadvanced.bind fun intervals _ => hlastWill.andThen
    (Checks.ok intervals))).congr fun intervals => ?_
  constructor
  · intro hparts
    rcases hparts with ⟨⟨hn, hu, hi⟩, _, ⟨ha, hnumbers⟩, hw, rfl⟩
    exact ⟨⟨hn, hu, hi, ha, hw⟩, hnumbers⟩
  · intro hparts
    rcases hparts with ⟨⟨hn, hu, hi, ha, hw⟩, hnumbers⟩
    exact ⟨⟨hn, hu, hi⟩, intervals, ⟨ha, hnumbers⟩, hw, rfl⟩

/-- The numbers of a legal step are there. -/
theorem exists_numbers {advanced : AdvancedStep} (h : advanced.Legal) :
    ∃ intervals, Numbers advanced intervals := by
  obtain ⟨keepAlive, hk, -⟩ := h.keepAlive
  obtain ⟨connectTimeout, hc, -⟩ := h.connectTimeout
  obtain ⟨reconnectPeriod, hr, -⟩ := h.reconnectPeriod
  exact ⟨⟨keepAlive, connectTimeout, reconnectPeriod⟩, hk, hc, hr⟩

/-- A draft that events lead to passes its check exactly when it is legal, and what does not pass is
reported as a field of a step and in no other way. -/
theorem check_succeeds_iff_legal (config : Config) (start draft : Draft) (events : List Event)
    (hstart : Begun config start) (hreached : Reached config start events draft)
    (hwill : ∀ will, draft.lastWill = some will → will.Counted) :
    ((∃ intervals, draft.check = .ok intervals) ↔ draft.Legal)
      ∧ ∀ error, draft.check = .error error →
        ∃ step field reason, error = .structural step field reason := by
  have hchecks := checks_check (hreached.wellFormed hstart.wellFormed) hwill
  refine ⟨?_, hchecks.reports⟩
  constructor
  · intro hexists
    rcases hexists with ⟨intervals, hok⟩
    exact ((hchecks.passes intervals).mp hok).1
  · intro hlegal
    obtain ⟨intervals, hnumbers⟩ := exists_numbers hlegal.advanced
    exact ⟨intervals, (hchecks.passes intervals).mpr ⟨hlegal, hnumbers⟩⟩

/-- A first draft with a last will. -/
def withLastWill (g : Generator) : Draft :=
  { first g with lastWill := some ⟨.str "status", .str "gone", .int 1, .bool true, .none⟩ }

/-- It is legal, for it passes its check. -/
theorem withLastWill_legal :
    (∃ intervals, (withLastWill (.ofStep 0 7)).check = .ok intervals)
      ∧ (withLastWill (.ofStep 0 7)).Legal := by
  let g : Generator := .ofStep 0 7
  let event : Event := .editLastWill (withLastWill g).lastWill
  have hreached : Reached Config.standard (first g) [event] (withLastWill g) :=
    Reached.refl.step (g := g) rfl
  have hcounted : ∀ will, (withLastWill g).lastWill = some will → will.Counted := by
    rintro will ⟨⟩
    exact ⟨⟨1, rfl⟩, .inl rfl, .inl rfl⟩
  have hok : (withLastWill g).check = .ok ⟨60, 30000, 1000⟩ := by decide +kernel
  have hlegal := check_succeeds_iff_legal Config.standard (first g) (withLastWill g) [event]
    (begun_first g) hreached hcounted
  exact ⟨⟨_, hok⟩, hlegal.1.mp ⟨_, hok⟩⟩

end Draft

end MqttProfile
