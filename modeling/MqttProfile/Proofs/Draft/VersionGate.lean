import MqttProfile.Proofs.Draft.Reached

/-!
# The gate of version 5

The fields of the version 5 properties are open exactly while the draft is of that version, however the
version came about, and an edit of a closed field is taken without effect.  So what a property holds at the
end of a run is what was last entered for it while the draft was of version 5, or else what the flow began
with.

* `get_gate` and `get_edit` say what the gate and an edit do to the field of each property;
* `Becomes.keepsGate` says what one step does to the gate and to what is held;
* `acceptedAll` is the history of a run, the entries that were made with effect, and
  `attemptAll_keepsGate` is the law of the last of them.
-/

namespace MqttProfile

/-! ## Properties -/

theorem supportsVersion5_level (version : MqttVersion) :
    supportsVersion5 version.level = true ↔ version = .v5 := by
  cases version <;> decide

/-- A value as the field of a property takes it: a unit has to be one, and is shown by its name. -/
def Version5Property.read? (property : Version5Property) (value : Json) : Option Json :=
  match property with
  | .sessionExpiryIntervalUnit => (TimeUnit.ofJson value).toOption.map (.str ·.name)
  | .maxPacketSizeUnit => (SizeUnit.ofJson value).toOption.map (.str ·.name)
  | .sessionExpiryInterval | .maxPacketSize | .topicAliasMax | .receiveMax | .requestResponseInfo =>
    some value

namespace Version5Properties

theorem get_gate (p : Version5Properties) (level : Int) (property : Version5Property) :
    (p.gate level).get property = { p.get property with enabled := supportsVersion5 level } := by
  rw [gate]
  cases supportsVersion5 level <;> cases property <;> rfl

theorem view_editField {α : Type} (toJson : α → Json) (field : Field α) (value : α) :
    view toJson (editField field value) = editField (view toJson field) (toJson value) := by
  rw [editField, editField]
  show _ = if field.enabled then _ else _
  cases field.enabled <;> rfl

/-- A unit is entered by a value that can be read as one. -/
theorem eq_ok_of_enteredUnit {α : Type} {outcome : Except Fault α} {cause : Error} {unit : α}
    (h : (match outcome with
      | .ok unit => (.ok unit : Except Error α)
      | .error _ => .error cause) = .ok unit) : outcome = .ok unit := by
  cases outcome with
  | error _ => cases h
  | ok _ =>
    cases h
    rfl

/-- An edit that succeeds is one of a value that can be read, and edits the field of its property alone. -/
theorem get_edit {p next : Version5Properties} {property : Version5Property} {value : Json}
    (h : p.edit property value = .ok next) :
    ∃ shown, property.read? value = some shown ∧ next.get property = editField (p.get property) shown
      ∧ ∀ other, other ≠ property → next.get other = p.get other := by
  cases property with
  | sessionExpiryInterval | maxPacketSize | topicAliasMax | receiveMax | requestResponseInfo =>
    cases h
    refine ⟨value, rfl, rfl, fun other hother => ?_⟩
    cases other <;> first | rfl | exact absurd rfl hother
  | sessionExpiryIntervalUnit =>
    obtain ⟨unit, hunit, rfl⟩ := exists_of_map_eq_ok h
    refine ⟨.str unit.name, ?_, ?_, fun other hother => ?_⟩
    · rw [Version5Property.read?, eq_ok_of_enteredUnit hunit]
      rfl
    · exact view_editField (fun unit : TimeUnit => .str unit.name) p.sessionExpiryIntervalUnit unit
    · cases other <;> first | rfl | exact absurd rfl hother
  | maxPacketSizeUnit =>
    obtain ⟨unit, hunit, rfl⟩ := exists_of_map_eq_ok h
    refine ⟨.str unit.name, ?_, ?_, fun other hother => ?_⟩
    · rw [Version5Property.read?, eq_ok_of_enteredUnit hunit]
      rfl
    · exact view_editField (fun unit : SizeUnit => .str unit.name) p.maxPacketSizeUnit unit
    · cases other <;> first | rfl | exact absurd rfl hother

end Version5Properties

/-! ## Names -/

namespace AdvancedField

theorem ofJson_name (field : AdvancedField) : ofJson (.str field.name) = .ok field := by
  cases field with
  | property property => cases property <;> rfl
  | _ => rfl

/-- What names a field is its name. -/
theorem eq_name_of_ofJson {name : Json} {field : AdvancedField} (h : ofJson name = .ok field) :
    name = .str field.name := by
  cases name with
  | str s =>
    simp only [ofJson] at h
    split at h
    · rename_i found hfound
      cases h
      have hname := List.find?_some hfound
      rw [beq_iff_eq] at hname
      rw [hname]
    · cases h
  | null | bool _ | int _ | float _ | arr _ | obj _ => cases h

theorem name_injective {field other : AdvancedField} (h : field.name = other.name) : field = other := by
  have hfield := ofJson_name field
  rw [h, ofJson_name other] at hfield
  cases hfield
  rfl

end AdvancedField

/-! ## Steps -/

/-- The fields of all version 5 properties are open in that version, and closed in any other. -/
def AdvancedStep.Gated (advanced : AdvancedStep) : Prop :=
  ∀ property, (advanced.properties.get property).enabled = true ↔ advanced.mqttVersion = .v5

/-- What an event enters for a property, if it edits the field of the property. -/
def Event.entered? (property : Version5Property) : Event → Option Json
  | .editAdvanced name value => if name = .str property.name then property.read? value else none
  | _ => none

/-- The edit of another field enters nothing for a property. -/
theorem Event.entered?_of_ne {property : Version5Property} {field : AdvancedField}
    (h : field ≠ .property property) (value : Json) :
    (Event.editAdvanced (.str field.name) value).entered? property = none := by
  rw [entered?, if_neg]
  intro hname
  rw [Json.str.injEq] at hname
  exact h (AdvancedField.name_injective hname)

namespace Draft

open Version5Properties

/-- What a draft holds for a property. -/
def propertyValue (draft : Draft) (property : Version5Property) : Json :=
  (draft.advanced.properties.get property).value

/-- What an event enters for a property with effect: the draft has to be of version 5. -/
def taken? (draft : Draft) (property : Version5Property) (event : Event) : Option Json :=
  if draft.advanced.mqttVersion = .v5 then event.entered? property else none

theorem gated_of_gate (advanced : AdvancedStep) : advanced.gated.Gated := by
  intro property
  show ((advanced.properties.gate advanced.mqttVersion.level).get property).enabled = true ↔ _
  rw [get_gate]
  exact supportsVersion5_level advanced.mqttVersion

/-- What a step leaves in the fields of the properties. -/
structure KeepsGate (draft : Draft) (event : Event) (next : Draft) : Prop where
  gated : next.advanced.Gated
  value : ∀ property,
    next.propertyValue property = (draft.taken? property event).getD (draft.propertyValue property)

/-- A step that leaves the version and the properties alone, and enters nothing for them. -/
theorem KeepsGate.of_eq {draft next : Draft} {event : Event} (hgated : draft.advanced.Gated)
    (hversion : next.advanced.mqttVersion = draft.advanced.mqttVersion)
    (hproperties : next.advanced.properties = draft.advanced.properties)
    (hentered : ∀ property, event.entered? property = none) : KeepsGate draft event next := by
  constructor
  · intro property
    rw [hproperties, hversion]
    exact hgated property
  · intro property
    rw [taken?, hentered, ite_self, Option.getD_none, propertyValue, hproperties]
    rfl

/-- A step that sets the gate as the version demands, and enters nothing. -/
theorem KeepsGate.of_gate {draft next : Draft} {event : Event}
    (hproperties : next.advanced.properties
      = draft.advanced.properties.gate next.advanced.mqttVersion.level)
    (hentered : ∀ property, event.entered? property = none) : KeepsGate draft event next := by
  constructor
  · intro property
    rw [hproperties, get_gate]
    exact supportsVersion5_level next.advanced.mqttVersion
  · intro property
    rw [taken?, hentered, ite_self, Option.getD_none, propertyValue, hproperties, get_gate]
    rfl

/-- A step that edits a property. -/
theorem KeepsGate.of_edit {draft : Draft} {property : Version5Property} {value : Json}
    {properties : Version5Properties} (hgated : draft.advanced.Gated)
    (hedit : draft.advanced.properties.edit property value = .ok properties) :
    KeepsGate draft (.editAdvanced (.str property.name) value)
      { draft with advanced := { draft.advanced with properties } } := by
  obtain ⟨shown, hread, hedited, hothers⟩ := get_edit hedit
  have hflag : ∀ other, (properties.get other).enabled
      = (draft.advanced.properties.get other).enabled := by
    intro other
    by_cases hother : other = property
    · rw [hother, hedited, editField]
      split <;> rfl
    · rw [hothers other hother]
  constructor
  · intro other
    show (properties.get other).enabled = true ↔ _
    rw [hflag]
    exact hgated other
  · intro other
    show (properties.get other).value = _
    by_cases hother : other = property
    · -- the field is open exactly when the entry counts
      rw [hother, hedited, editField, taken?, Event.entered?, if_pos rfl, hread]
      by_cases hopen : draft.advanced.mqttVersion = .v5
      · rw [if_pos ((hgated property).mpr hopen), if_pos hopen]
        rfl
      · rw [if_neg fun henabled => hopen ((hgated property).mp henabled), if_neg hopen]
        rfl
    · have hne : AdvancedField.property property ≠ .property other := by
        rintro ⟨⟩
        exact hother rfl
      have hentered : (Event.editAdvanced (.str property.name) value).entered? other = none :=
        Event.entered?_of_ne hne value
      rw [hothers other hother, taken?, hentered, ite_self]
      rfl

/-- Every step keeps the gate, and changes what is held for a property only by an entry that counts. -/
theorem Becomes.keepsGate {config : Config} {draft next : Draft} {event : Event}
    (h : Becomes config draft event next) (hgated : draft.advanced.Gated) :
    KeepsGate draft event next := by
  cases h with
  | initialise => exact .of_gate rfl fun _ => rfl
  | changeVersion _ => exact .of_gate rfl fun _ => rfl
  | loadSettings _ =>
    rw [Draft.loaded]
    split <;> exact .of_eq hgated rfl rfl fun _ => rfl
  | @editConnection _ _ field _ => cases field <;> exact .of_eq hgated rfl rfl fun _ => rfl
  | @editAdvanced name value field _ hfield hedit =>
    cases AdvancedField.eq_name_of_ofJson hfield
    have hother : (∀ property, field ≠ .property property) →
        ∀ property, (Event.editAdvanced (.str field.name) value).entered? property = none :=
      fun hne property => Event.entered?_of_ne (hne property) value
    cases field with
    | protocolVersion =>
      obtain ⟨version, -, rfl⟩ := changeVersion_ok hedit
      exact .of_gate rfl (hother fun _ h => by cases h)
    | cleanStart | keepAlive | connectTimeout | reconnectPeriod =>
      cases hedit
      exact .of_eq hgated rfl rfl (hother fun _ h => by cases h)
    | keepAliveUnit | connectTimeoutUnit | reconnectPeriodUnit =>
      obtain ⟨unit, -, rfl⟩ := exists_of_map_eq_ok hedit
      exact .of_eq hgated rfl rfl (hother fun _ h => by cases h)
    | property property =>
      obtain ⟨properties, hproperties, rfl⟩ := exists_of_map_eq_ok hedit
      exact .of_edit hgated hproperties
  | _ => exact .of_eq hgated rfl rfl fun _ => rfl

/-! ## Runs -/

/-- What a flow begins with for the properties: what is stored of them, and else what a new draft has. -/
def initialProperties (editing : Option Profile) : Version5Properties :=
  match editing with
  | none => .initial
  | some profile => .ofConfiguration profile.configuration

/-- A flow begins with the gate set, and with the values that it is given. -/
theorem Begun.gated {config : Config} {start : Draft} (h : Begun config start) :
    start.advanced.Gated
      ∧ ∀ property, start.propertyValue property
        = ((initialProperties start.editing).get property).value := by
  have hgate : ∀ advanced : AdvancedStep, start.advanced = advanced.gated →
      advanced.properties = initialProperties start.editing → start.advanced.Gated
        ∧ ∀ property, start.propertyValue property
          = ((initialProperties start.editing).get property).value := by
    intro advanced hadvanced hproperties
    refine ⟨?_, fun property => ?_⟩
    · rw [hadvanced]
      exact gated_of_gate advanced
    · rw [propertyValue, hadvanced, ← hproperties]
      show ((advanced.properties.gate _).get property).value = _
      rw [get_gate]
  cases h with
  | fresh h =>
    obtain ⟨name, -, -, rfl⟩ := new_ok h
    exact hgate .initial rfl rfl
  | @edited _ profile _ _ h =>
    obtain ⟨transport, lastWill, -, -, rfl⟩ := ofProfile_ok h
    exact hgate (.ofConfiguration profile.configuration) rfl rfl

/-- The entry for a property that a tried event makes with effect: an event that fails makes none. -/
def accepted? (config : Config) (property : Version5Property) (event : Event) (draft : Draft)
    (g : Generator) : Option Json :=
  match (draft.apply config event g).1 with
  | .ok _ => draft.taken? property event
  | .error _ => none

/-- The history of a property along a run: the entries that were made with effect, the oldest first. -/
def acceptedAll (config : Config) (property : Version5Property) (events : List Event) (draft : Draft)
    (g : Generator) : List Json :=
  match events with
  | [] => []
  | event :: events =>
    let next := draft.attempt config event g
    (draft.accepted? config property event g).toList
      ++ next.1.acceptedAll config property events next.2

/-- A tried event keeps the gate, and changes what is held for a property only by an accepted entry. -/
theorem attempt_keepsGate {draft : Draft} (hgated : draft.advanced.Gated) (config : Config) (event : Event)
    (g : Generator) :
    (draft.attempt config event g).1.advanced.Gated
      ∧ ∀ property, (draft.attempt config event g).1.propertyValue property
        = (draft.accepted? config property event g).getD (draft.propertyValue property) := by
  cases happly : (draft.apply config event g).1 with
  | ok next =>
    have hkeeps := (becomes_of_apply happly).keepsGate hgated
    rw [attempt_of_ok happly]
    refine ⟨hkeeps.gated, fun property => ?_⟩
    rw [accepted?, happly]
    exact hkeeps.value property
  | error error =>
    rw [attempt_of_error happly]
    refine ⟨hgated, fun property => ?_⟩
    rw [accepted?, happly]
    rfl

/-- A run keeps the gate, and leaves each property with the last accepted entry for it. -/
theorem attemptAll_keepsGate {draft : Draft} (hgated : draft.advanced.Gated) (config : Config)
    (events : List Event) (g : Generator) :
    (draft.attemptAll config events g).1.advanced.Gated
      ∧ ∀ property, (draft.attemptAll config events g).1.propertyValue property
        = (draft.acceptedAll config property events g).getLast?.getD (draft.propertyValue property) := by
  induction events generalizing draft g with
  | nil => exact ⟨hgated, fun _ => rfl⟩
  | cons event events ih =>
    obtain ⟨hgated', hvalue⟩ := attempt_keepsGate hgated config event g
    obtain ⟨hfinal, hlast⟩ := ih hgated' (draft.attempt config event g).2
    refine ⟨hfinal, fun property => ?_⟩
    -- an entry of the first event counts only where the rest of the run has none
    rw [acceptedAll, List.getLast?_append, Option.getD_or]
    rw [attemptAll]
    rw [hlast property, hvalue property]
    cases draft.accepted? config property event g <;> rfl

/-- At the end of every run, whatever events it tries, the fields of the version 5 properties are open
exactly if the draft is of that version, and each property holds what was last entered for it while the
draft was, or else what the flow began with.  No other event changes what is held for a property. -/
theorem run_respects_gate (config : Config) (start : Draft) (hstart : Begun config start)
    (events : List Event) (g : Generator) :
    let final := (start.attemptAll config events g).1
    (∀ property, (final.advanced.properties.get property).enabled = true
        ↔ final.advanced.mqttVersion = .v5)
      ∧ (∀ property, final.propertyValue property
        = (start.acceptedAll config property events g).getLast?.getD
          ((initialProperties start.editing).get property).value)
      ∧ ∀ event g' property, final.accepted? config property event g' = none →
        (final.attempt config event g').1.propertyValue property = final.propertyValue property := by
  intro final
  obtain ⟨hgated, hinitial⟩ := hstart.gated
  obtain ⟨hfinal, hlast⟩ := attemptAll_keepsGate hgated config events g
  refine ⟨hfinal, fun property => ?_, ?_⟩
  · rw [hlast property, hinitial property]
  · intro event g' property hnone
    rw [(attempt_keepsGate hfinal config event g').2 property, hnone]
    rfl

/-- An entry that is made while the draft is of another version is lost, and the one before it stays. -/
theorem closed_entry_is_lost :
    let g : Generator := .ofStep 0 7
    let events : List Event := [.editAdvanced (.str "receive_max") (.int 10), .changeVersion (.int 4),
      .editAdvanced (.str "receive_max") (.int 20), .changeVersion (.int 5)]
    (first g).acceptedAll Config.standard .receiveMax events g = [.int 10]
      ∧ ((first g).attemptAll Config.standard events g).1.propertyValue .receiveMax = .int 10 := by
  intro g events
  have hhistory : (first g).acceptedAll Config.standard .receiveMax events g = [.int 10] := by
    decide +kernel
  obtain ⟨-, hvalue, -⟩ := run_respects_gate Config.standard (first g) (begun_first g) events g
  refine ⟨hhistory, ?_⟩
  rw [hvalue .receiveMax, hhistory]
  rfl

end Draft

end MqttProfile
