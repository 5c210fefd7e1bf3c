import MqttProfile.Json.Basic
import MqttProfile.Text.Number

/-!
# Values as numbers

How a value of any kind is taken for an integer, and how a value is compared with one.  In both, `true`
and `false` count as one and zero.
-/

namespace MqttProfile.Json

/-- One for `true` and zero for `false`. -/
def ofBit (b : Bool) : Int := if b then 1 else 0

/-- What an integer or a truth value counts. -/
def count? : Json → Option Int
  | .bool b => some (ofBit b)
  | .int n => some n
  | _ => none

/-- The integer that a value stands for: a number is cut off at its point and a text is read. -/
def toInt : Json → Except Fault Int
  | .bool b => .ok (ofBit b)
  | .int n => .ok n
  | .float (.infinite _) => .error .outOfRange
  | .float x => match x.truncate? with
    | some n => .ok n
    | none => .error .badValue
  | .str s => match Text.readInt s with
    | some n => .ok n
    | none => .error .badValue
  | _ => .error .wrongKind

/-- The order of a number and an integer; `nan` has none, and only numbers are compared. -/
def compareInt (value : Json) (n : Int) : Except Fault (Option Ordering) :=
  match value with
  | .bool b => .ok (some (compare (ofBit b) n))
  | .int m => .ok (some (compare m n))
  | .float x => .ok (x.compareInt n)
  | _ => .error .wrongKind

/-- The integer in a value that is one; `true` and `false` are none. -/
def wholeNumber? : Json → Option Int
  | .int n => some n
  | _ => none

end MqttProfile.Json
