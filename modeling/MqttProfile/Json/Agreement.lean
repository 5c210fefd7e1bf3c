import MqttProfile.Json.Number

/-!
# Agreement of values

Two values agree when they mean the same: numbers are compared by what they count, whatever kind they
are of, and the members of objects in any order.  A number that is not a number agrees with nothing, so
a value that holds one does not even agree with itself.
-/

namespace MqttProfile.Json

/-- Whether two values count the same; none where one of them counts nothing. -/
def countsSame? : Json → Json → Option Bool
  | .float x, .float y => some (x.numericEq y)
  | .float x, b => b.count?.map fun n => x.compareInt n == some .eq
  | a, .float y => a.count?.map fun n => y.compareInt n == some .eq
  | a, b => match a.count?, b.count? with
    | some m, some n => some (m == n)
    | _, _ => none

mutual

/-- Whether two values mean the same. -/
def agrees : Json → Json → Bool
  | .null, .null => true
  | .str a, .str b => a == b
  | .arr as, .arr bs => itemsAgree as bs
  | .obj as, .obj bs => as.length == bs.length && membersAgree as bs
  | a, b => (a.countsSame? b).getD false

/-- Whether two lists of values agree place by place. -/
def itemsAgree : List Json → List Json → Bool
  | [], [] => true
  | a :: as, b :: bs => agrees a b && itemsAgree as bs
  | _, _ => false

/-- Whether every one of the first members agrees with one of the second ones of its name. -/
def membersAgree : Members → Members → Bool
  | [], _ => true
  | (key, a) :: as, bs =>
    (match lookup key bs with
     | some b => agrees a b
     | none => false) && membersAgree as bs

end

@[simp]
theorem agrees_str (a b : String) : agrees (.str a) (.str b) = (a == b) := by
  simp [agrees]

end MqttProfile.Json
