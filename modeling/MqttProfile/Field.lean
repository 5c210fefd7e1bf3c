/-!
# Fields of a form

A field holds a value, says whether it can be edited and whether it has to be filled in.  Its two flags
are truth values unless a form from elsewhere put other values there.
-/

namespace MqttProfile

/-- A kind of values that has the two truth values among it. -/
class Flag (φ : Type) where
  ofBool : Bool → φ

instance : Flag Bool := ⟨id⟩

/-- A field with its value and its flags. -/
structure Field (α : Type) (φ : Type := Bool) where
  value : α
  enabled : φ
  required : φ
deriving DecidableEq, Repr

namespace Field

variable {α φ : Type} [Flag φ]

/-- A field that can be edited and left empty. -/
def plain (value : α) : Field α φ :=
  ⟨value, Flag.ofBool true, Flag.ofBool false⟩

/-- A field that can be edited and has to be filled in. -/
def mandatory (value : α) : Field α φ :=
  ⟨value, Flag.ofBool true, Flag.ofBool true⟩

def set (field : Field α φ) (value : α) : Field α φ :=
  { field with value }

def lock (field : Field α φ) : Field α φ :=
  { field with enabled := Flag.ofBool false }

def unlock (field : Field α φ) : Field α φ :=
  { field with enabled := Flag.ofBool true }

/-- The field with another demand to be filled in. -/
def require (field : Field α φ) (required : φ) : Field α φ :=
  { field with required }

end Field

end MqttProfile
