import MqttProfile.Error
import MqttProfile.Profile.Configuration

/-!
# Entered user properties

User properties are entered as a list whose entries may be properties already, objects with a key and a
value, or pairs.  A text or an object in place of the list is walked through like a list.
-/

namespace MqttProfile

/-- One entered property. -/
inductive PropertyEntry where
  | property (property : UserProperty)
  | value (value : Json)
deriving DecidableEq

/-- What is entered for the list of properties. -/
inductive PropertyInput where
  | list (entries : List PropertyEntry)
  | single (entry : PropertyEntry)
deriving DecidableEq

namespace PropertyEntry

/-- The property of a key and a value; a key that is false counts as empty. -/
private def pair (key content : Json) : UserProperty :=
  ⟨key.orElse (.str ""), content⟩

/-- The property of a sequence of parts, of which there have to be two. -/
private def ofParts : List Json → Except Fault UserProperty
  | [key, content] => .ok (pair key content)
  | _ => .error .badValue

/-- Reads an entered property: an object has its key and its value under their stored names, and a text
is taken for the sequence of its characters. -/
def read : PropertyEntry → Except Fault UserProperty
  | .property p => .ok p
  | .value (.obj members) => .ok (pair (Json.memberOrNull "k" members) (Json.memberOrNull "v" members))
  | .value v => v.parts.bind ofParts

/-- The entries in a value that stands in place of a list; one that is false has none. -/
def walk : PropertyEntry → Except Fault (List PropertyEntry)
  | .property _ => .error .wrongKind
  | .value v => if v.truthy then v.parts.map (·.map .value) else .ok []

end PropertyEntry

/-- Reads the entered properties; the first entry that is none makes it fail. -/
def PropertyInput.read : PropertyInput → Except Fault (List UserProperty)
  | .list entries => entries.mapM (·.read)
  | .single entry => entry.walk.bind fun entries => entries.mapM (·.read)

end MqttProfile
