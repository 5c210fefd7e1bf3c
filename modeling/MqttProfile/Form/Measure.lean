import MqttProfile.Conversion

/-!
# Values with units in forms

A form may hold any value where a whole number is meant.  A truth value counts as one or zero and is
shown as it is, and a binary64 number stays one.  A text or a list can be repeated, and so has a multiple;
that is all that can be done with it.
-/

namespace MqttProfile

/-- An outcome whose failure is about a unit. -/
def liftMeasure {α : Type} : Except MeasureError α → Except Error α
  | .ok x => .ok x
  | .error cause => .error (.measure cause)

namespace Measure

/-- A value of a form in the finest unit of its kind. -/
def toFinestForm (value : Json) (unit : Measure) : Except Fault Json :=
  match value with
  | .int n => .ok (.int (toFinest n unit))
  | .bool b => .ok (.int (toFinest (Json.ofBit b) unit))
  | .float x => .ok (.float (x.scale unit.factor))
  | .str s => .ok (.str (String.join (List.replicate unit.factor s)))
  | .arr items => .ok (.arr (List.replicate unit.factor items).flatten)
  | .null | .obj _ => .error .wrongKind

/-- A value of the finest unit in another unit of its kind, if no remainder is left. -/
def ofFinestForm (value : Json) (unit : Measure) : Except Error Json :=
  let whole (quotient? : Option Json) : Except Error Json :=
    quotient?.elim (.error (inexact value unit)) .ok
  match value with
  | .int n => (ofFinest n unit).map .int
  | .bool b => whole ((ofFinest (Json.ofBit b) unit).toOption.map .int)
  | .float x => whole ((x.wholeQuotient? unit.factor).map .float)
  | _ => Fault.wrongKind.raise

/-- A value of a form in another unit of its kind, if no remainder is left. -/
def convertForm (value : Json) (source target : Measure) : Except Error Json :=
  if source.sameKind target then
    (liftFault (toFinestForm value source)).bind fun finest => ofFinestForm finest target
  else .error (.measure (.mixedKinds source target))

/-- Whole numbers of a form are converted like any others. -/
theorem convertForm_int (n : Int) (source target : Measure) :
    convertForm (.int n) source target = (convert n source target).map .int := by
  unfold convertForm convert
  split
  · rfl
  · rfl

end Measure

/-- Whether a value of a form is neither negative nor above the largest one of the field. -/
def Bounded.admitsForm (field : Bounded) (value : Json) (unit : Measure) : Except Error Bool :=
  match value with
  | .int n => liftMeasure (field.admits n unit)
  | value => do
    let natural ← liftFault (value.compareInt 0)
    if natural = some .gt ∨ natural = some .eq then
      let high ← liftMeasure (field.largest unit)
      let order ← liftFault (value.compareInt high)
      return order = some .lt ∨ order = some .eq
    else return false

end MqttProfile
