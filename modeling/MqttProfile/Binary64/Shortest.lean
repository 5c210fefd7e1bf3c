import MqttProfile.Binary64.Basic
import MqttProfile.Text.Number

/-!
# The shortest decimal text of a binary64 number

A finite number is written with the fewest digits that read back to it; of two candidates of that
length the nearer one is taken, and on a tie the even one.  `NumberLayout` holds the remaining
decisions, such as where positional notation ends.
-/

namespace MqttProfile.Binary64

/-- A finite binary64 number is the decimal `coefficient * 10 ^ exponent` exactly. -/
def exactDecimal (m : Nat) (q : Int) : Nat × Int :=
  if q < 0 then (m * Nat.pow 5 q.natAbs, q) else (m * Nat.pow 2 q.natAbs, 0)

/-- The decimal nearest to `c * 10 ^ e` among its two neighbours on the grid of step
`10 ^ (e + dropped)` that read back to `target`. -/
def onGrid? (target : Binary64) (c : Nat) (e : Int) (dropped : Nat) : Option (Nat × Int) :=
  let step := Nat.pow 10 dropped
  let exponent := e + dropped
  let low := c / step
  let rest := c % step
  let reads (n : Nat) : Bool := ofDecimal false n exponent == target
  match reads low, reads (low + 1) with
  | true, true =>
    let goesUp := step < 2 * rest || (2 * rest == step && low % 2 == 1)
    some (if goesUp then low + 1 else low, exponent)
  | true, false => some (low, exponent)
  | false, true => some (low + 1, exponent)
  | false, false => none

/-- Tries grids from the coarsest, which keeps one digit, down to the exact decimal. -/
def firstGrid (target : Binary64) (c : Nat) (e : Int) : Nat → Nat × Int
  | 0 => (c, e)
  | dropped + 1 =>
    match onGrid? target c e (dropped + 1) with
    | some found => found
    | none => firstGrid target c e dropped

/-- The shortest decimal `coefficient * 10 ^ exponent` that reads back to the magnitude
`m * 2 ^ q`. -/
def shortest (m : Nat) (q : Int) : Nat × Int :=
  let (c, e) := exactDecimal m q
  firstGrid (.finite false m q) c e ((Text.ofNat c).length - 1)

/-- How the digits of a number are laid out as text. -/
structure NumberLayout where
  /-- The least decimal exponent that is written in positional notation. -/
  leastPositional : Int
  /-- The decimal exponent from which positional notation is no longer used. -/
  positionalEnd : Int
  /-- The least number of digits of a written exponent. -/
  exponentDigits : Nat

/-- The exponent with its sign, padded with zeros to the least number of digits. -/
def exponentText (width : Nat) (e : Int) : List Char :=
  let digits := Text.ofNat e.natAbs
  (if e < 0 then '-' else '+') :: List.replicate (width - digits.length) '0' ++ digits

/-- Lays out the digits of the decimal `0.d₁d₂… * 10 ^ point`. -/
def NumberLayout.apply (layout : NumberLayout) (digits : List Char) (point : Int) : List Char :=
  let exponent := point - 1
  if exponent < layout.leastPositional ∨ layout.positionalEnd ≤ exponent then
    let fraction := digits.drop 1
    digits.take 1 ++ (if fraction.isEmpty then [] else '.' :: fraction)
      ++ 'e' :: exponentText layout.exponentDigits exponent
  else if point ≤ 0 then
    '0' :: '.' :: List.replicate point.natAbs '0' ++ digits
  else
    let whole := digits.take point.toNat
    let fraction := digits.drop point.toNat
    whole ++ List.replicate (point.toNat - whole.length) '0'
      ++ '.' :: (if fraction.isEmpty then ['0'] else fraction)

/-- Numbers from `10 ^ -4` up to `10 ^ 16` are positional, with at least one digit after the point; an
exponent has a sign and at least two digits. -/
def standardLayout : NumberLayout := ⟨-4, 16, 2⟩

/-- The digits without the zeros at their end, of which at least one digit is left. -/
def dropTrailingZeros (digits : List Char) : List Char :=
  match (digits.reverse.dropWhile (· == '0')).reverse with
  | [] => ['0']
  | kept => kept

/-- The text of a magnitude. -/
def magnitudeText (m : Nat) (q : Int) : List Char :=
  if m = 0 then ['0', '.', '0']
  else
    let (c, e) := shortest m q
    let digits := Text.ofNat c
    standardLayout.apply (dropTrailingZeros digits) (digits.length + e)

/-- The spellings of the numbers that have no digits. -/
structure SpecialNames where
  notANumber : List Char
  infinity : List Char

/-- The text of a number: shortest digits, or one of the given names. -/
def render (names : SpecialNames) : Binary64 → List Char
  | .nan => names.notANumber
  | .infinite negative => if negative then '-' :: names.infinity else names.infinity
  | .finite negative m q => if negative then '-' :: magnitudeText m q else magnitudeText m q

/-- The names `nan` and `inf`. -/
def plainNames : SpecialNames := ⟨"nan".toList, "inf".toList⟩

/-- The text of a number, with `nan` and `inf` for the numbers that have no digits. -/
def text (x : Binary64) : String :=
  String.ofList (x.render plainNames)

/-- A layout writes an exponent or a point, whatever the digits are. -/
theorem NumberLayout.apply_ne_nil (layout : NumberLayout) (digits : List Char) (point : Int) :
    layout.apply digits point ≠ [] := by
  unfold NumberLayout.apply
  dsimp only
  split
  · exact List.append_ne_nil_of_right_ne_nil _ (List.cons_ne_nil _ _)
  · split
    · exact List.cons_ne_nil _ _
    · exact List.append_ne_nil_of_right_ne_nil _ (List.cons_ne_nil _ _)

private theorem magnitudeText_ne_nil (m : Nat) (q : Int) : magnitudeText m q ≠ [] := by
  unfold magnitudeText
  split
  · exact List.cons_ne_nil _ _
  · exact NumberLayout.apply_ne_nil _ _ _

/-- No number is written as an empty text. -/
theorem render_plainNames_ne_nil (x : Binary64) : x.render plainNames ≠ [] := by
  cases x with
  | nan => exact List.cons_ne_nil _ _
  | infinite negative => cases negative <;> exact List.cons_ne_nil _ _
  | finite negative m q =>
    cases negative with
    | true => exact List.cons_ne_nil _ _
    | false => exact magnitudeText_ne_nil m q

end MqttProfile.Binary64
