import MqttProfile.Draft.Event
import MqttProfile.Form.LastWill

/-!
# Events of forms

A form reports an event by its kind, its value and, for the edit of a field, the step and the field.
Records in the value are read at once; everything else is read when the event is applied.
-/

namespace MqttProfile

/-- The step that a form means by a number, which may be any value that equals one; null is none. -/
def Step.ofForm (value : Json) : Except Error (Option Step) :=
  match value with
  | .null => .ok none
  | value => match Step.all.find? fun step => value.compareInt step.index matches .ok (some .eq) with
    | some step => .ok (some step)
    | none => .error (.fault .badValue)

namespace Event

/-- Reads a value that may be null. -/
private def absent {α : Type} (read : Json → Except Error α) : Json → Except Error (Option α)
  | .null => .ok none
  | value => (read value).map some

/-- The edit of a field. -/
def ofEdit (step? : Option Step) (field value : Json) : Except Error Event :=
  match step? with
  | none => .ok (.editNowhere field)
  | some .connection => .ok (.editConnection field value)
  | some .advanced => .ok (.editAdvanced field value)
  | some .lastWill => (LastWill.ofForm value).map .editLastWill
  | some .userProperties => .ok (.editUserProperties (.single (.value value)))

/-- The event of a kind. -/
def ofForm (kind : Json) (step? : Option Step) (field value : Json) : Except Error Event :=
  match kind with
  | .str "init" => .ok .initialise
  | .str "credential_mode_selected" => .ok (.selectMode value)
  | .str "credential_reference_changed" =>
    (absent (fun payload => liftFault (CredentialReference.ofJson payload)) value).map .changeReference
  | .str "protocol_version_changed" => .ok (.changeVersion value)
  | .str "transport_selected" => .ok (.selectTransport value)
  | .str "settings_loaded" =>
    (absent (fun payload => liftIntake (ConnectivitySettings.ofJson payload)) value).map .loadSettings
  | .str "field_edited" => ofEdit step? field value
  | .str "regenerate" => .ok (.regenerate field)
  | .str "url_edited" => .ok (.editUrl value)
  | _ => .error (.fault .badValue)

end Event

end MqttProfile
