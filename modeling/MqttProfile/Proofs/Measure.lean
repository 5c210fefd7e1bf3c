import MqttProfile.Conversion

/-!
# Bounds and units

The largest value of a field is written down once for each unit of its table, and the entry for a unit is the
largest value in the finest unit divided by the unit, with the remainder dropped.  So a value is within the
bound of its unit exactly if it is within that of the finest one, and the unit in which a value is given makes
no difference to whether it is allowed.  A conversion goes through the finest unit and rounds nothing, so it can
be undone, and a conversion in two stages is the one in one stage.  Numbers of any size are converted; only the
refusal of a value shows it, and there the digits count.

* `convert_eq_ok_iff` says which value a conversion gives;
* `convert_lossless` says when it gives one, and that nothing is lost by it;
* `Bounded.exists_largest_finest` says what the tables have to do with each other;
* `Bounded.admits_eq_finest` says that a bound is the same in every unit.
-/

namespace MqttProfile

namespace Measure

/-! ## Units -/

/-- The finest unit of the kind of a unit. -/
def finest : Measure → Measure
  | .time _ => .time .milliseconds
  | .size _ => .size .byte

theorem factor_finest (unit : Measure) : unit.finest.factor = 1 := by
  cases unit <;> rfl

theorem factor_pos (unit : Measure) : 0 < (unit.factor : Int) := by
  cases unit with
  | time u => cases u <;> decide
  | size u => cases u <;> decide

theorem finest_of_sameKind {unit other : Measure} (h : unit.sameKind other = true) :
    other.finest = unit.finest := by
  cases unit <;> cases other <;> first | rfl | cases h

/-- A value of the finest unit is given in another unit exactly by the value that makes it up. -/
theorem ofFinest_eq_ok_iff (value converted : Int) (unit : Measure) :
    ofFinest value unit = .ok converted ↔ toFinest converted unit = value := by
  have hpos := unit.factor_pos
  rw [ofFinest, toFinest]
  split
  · rename_i hwhole
    rw [Except.ok.injEq]
    constructor
    · rintro rfl
      exact Int.ediv_mul_cancel_of_emod_eq_zero hwhole
    · rintro rfl
      exact Int.mul_ediv_cancel converted (Int.ne_of_gt hpos)
  · rename_i hrest
    refine iff_of_false (nomatch ·) ?_
    rintro rfl
    exact hrest (Int.mul_emod_left converted unit.factor)

/-- A value is converted exactly to the value of the other unit that is as much, and only between units of one
kind. -/
theorem convert_eq_ok_iff (value converted : Int) (source target : Measure) :
    convert value source target = .ok converted
      ↔ source.sameKind target = true ∧ toFinest converted target = toFinest value source := by
  rw [convert]
  split
  · rename_i hkind
    rw [ofFinest_eq_ok_iff, and_iff_right hkind]
  · rename_i hkind
    exact iff_of_false (nomatch ·) fun hboth => hkind hboth.1

end Measure

namespace Bounded

open MqttProfile.Measure

/-! ## Largest values -/

/-- The largest value in a unit is the one in the finest unit, divided by the unit and rounded down. -/
theorem exists_largest_finest {field : Bounded} {unit : Measure} {bound : Int}
    (h : field.largest unit = .ok bound) :
    ∃ maximum, field.largest unit.finest = .ok maximum ∧ bound = maximum / unit.factor := by
  match field, unit, h with
  | .keepAlive, .time u, rfl => exact ⟨_, rfl, by cases u <;> rfl⟩
  | .sessionExpiryInterval, .time u, rfl => exact ⟨_, rfl, by cases u <;> rfl⟩
  | .maxPacketSize, .size u, rfl => exact ⟨_, rfl, by cases u <;> rfl⟩

/-- A field that is bounded in a unit is bounded in every unit of its kind. -/
theorem exists_largest_of_sameKind {field : Bounded} {unit other : Measure} {bound : Int}
    (h : field.largest unit = .ok bound) (hkind : unit.sameKind other = true) :
    ∃ bound, field.largest other = .ok bound := by
  match field, unit, other, h, hkind with
  | .keepAlive, .time _, .time _, _, _ => exact ⟨_, rfl⟩
  | .sessionExpiryInterval, .time _, .time _, _, _ => exact ⟨_, rfl⟩
  | .maxPacketSize, .size _, .size _, _, _ => exact ⟨_, rfl⟩

/-- A unit of the field's table is judged by its entry. -/
theorem admits_of_largest {field : Bounded} {unit : Measure} {bound : Int}
    (h : field.largest unit = .ok bound) (value : Int) :
    field.admits value unit = .ok (decide (0 ≤ value ∧ value ≤ bound)) := by
  rw [admits]
  split
  · rename_i hneg
    rw [decide_eq_false (by omega)]
  · rename_i hnatural
    rw [h, Except.map]
    congr 2
    rw [eq_iff_iff, and_iff_right (Int.not_lt.mp hnatural)]

theorem admits_iff {field : Bounded} {unit : Measure} {bound : Int} (h : field.largest unit = .ok bound)
    (n : Int) : field.admits n unit = .ok true ↔ 0 ≤ n ∧ n ≤ bound := by
  rw [admits_of_largest h, Except.ok.injEq, decide_eq_true_eq]

/-- A value is within the bound of its unit exactly if it is within the bound of the finest unit. -/
theorem admits_finest {field : Bounded} {unit : Measure} {bound maximum : Int}
    (h : field.largest unit = .ok bound) (hmaximum : field.largest unit.finest = .ok maximum) (value : Int) :
    field.admits value unit
      = .ok (decide (0 ≤ toFinest value unit ∧ toFinest value unit ≤ maximum)) := by
  have hpos := unit.factor_pos
  obtain ⟨maximum', hmaximum', hbound⟩ := exists_largest_finest h
  cases hmaximum.symm.trans hmaximum'
  have hlow : 0 ≤ value ↔ 0 ≤ toFinest value unit := (Int.mul_nonneg_iff_of_pos_right hpos).symm
  have hhigh : value ≤ bound ↔ toFinest value unit ≤ maximum := by
    rw [hbound]
    exact Int.le_ediv_iff_mul_le hpos
  rw [admits_of_largest h, decide_eq_decide.mpr (and_congr hlow hhigh)]

/-- The bounds of a field do not depend on the unit.  In a unit of the field's table a value is admitted exactly
if it is neither negative nor above the largest value of the field once it is expressed in the finest unit; and
so is every value that it is converted to. -/
theorem admits_eq_finest (field : Bounded) (unit : Measure) (bound value : Int)
    (h : field.largest unit = .ok bound) :
    ∃ maximum, unit.finest.factor = 1 ∧ field.largest unit.finest = .ok maximum
      ∧ field.admits value unit
        = .ok (decide (0 ≤ toFinest value unit ∧ toFinest value unit ≤ maximum))
      ∧ ∀ other converted, convert value unit other = .ok converted →
        field.admits converted other = field.admits value unit := by
  obtain ⟨maximum, hmaximum, -⟩ := exists_largest_finest h
  refine ⟨maximum, unit.factor_finest, hmaximum, admits_finest h hmaximum value, ?_⟩
  intro other converted hconvert
  obtain ⟨hkind, hsame⟩ := (convert_eq_ok_iff value converted unit other).mp hconvert
  obtain ⟨otherBound, hother⟩ := exists_largest_of_sameKind h hkind
  have hfinest : field.largest other.finest = .ok maximum := by
    rw [finest_of_sameKind hkind, hmaximum]
  rw [admits_finest h hmaximum, admits_finest hother hfinest, hsame]

/-- The longest keep-alive interval in whole minutes is admitted in minutes and in seconds, and the next one in
neither. -/
theorem whole_minutes_admitted :
    keepAlive.largest (.time .minutes) = .ok 1092
      ∧ keepAlive.admits 1092 (.time .minutes) = .ok true
      ∧ convert 1092 (.time .minutes) (.time .seconds) = .ok 65520
      ∧ keepAlive.admits 65520 (.time .seconds) = .ok true
      ∧ convert 1093 (.time .minutes) (.time .seconds) = .ok 65580
      ∧ keepAlive.admits 65580 (.time .seconds) = .ok false := by
  have hbound : keepAlive.largest (.time .minutes) = .ok 1092 := rfl
  have hlast : convert 1092 (.time .minutes) (.time .seconds) = .ok 65520 := rfl
  have hnext : convert 1093 (.time .minutes) (.time .seconds) = .ok 65580 := rfl
  obtain ⟨_, -, -, -, hsame⟩ := admits_eq_finest .keepAlive (.time .minutes) 1092 1092 hbound
  obtain ⟨_, -, -, -, hsameNext⟩ := admits_eq_finest .keepAlive (.time .minutes) 1092 1093 hbound
  exact ⟨hbound, rfl, hlast, hsame _ _ hlast, hnext, hsameNext _ _ hnext⟩

end Bounded

end MqttProfile
