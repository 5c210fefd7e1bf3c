import MqttProfile.Error

/-!
# Conversion between units

A value goes to another unit of its kind by way of the finest one, and without rounding: what is no whole
number of the new unit is refused.  The refusal shows the value in the finest unit, so a value that has too
many digits there is a bad value.
-/

namespace MqttProfile.Measure

/-- The refusal of a value of the finest unit that falls between two values of a unit. -/
def inexact (value : Json) (unit : Measure) : Error :=
  .showing value (.measure (.inexact value unit))

/-- A value of the finest unit in another unit of its kind, if no remainder is left. -/
def ofFinest (value : Int) (unit : Measure) : Except Error Int :=
  if value % unit.factor = 0 then .ok (value / unit.factor) else .error (inexact value unit)

/-- A value in another unit of its kind, if no remainder is left. -/
def convert (value : Int) (source target : Measure) : Except Error Int :=
  if source.sameKind target then ofFinest (toFinest value source) target
  else .error (.measure (.mixedKinds source target))

end MqttProfile.Measure
