/-!
# Binary64 numbers

A number of the IEEE 754 format binary64, kept as a sign, a significand and the exponent of its last
place, so that all arithmetic on it is exact arithmetic on natural numbers.  Every finite number is
built by `nearest`, which rounds a ratio and yields the one representation with the largest significand
below `2 ^ 53` and an exponent of at least `-1074`.  Powers are written `Nat.pow`, which means the same
whatever else is in scope.
-/

namespace MqttProfile

/-- A binary64 number; a finite one is `± significand * 2 ^ exponent`. -/
inductive Binary64 where
  | nan
  | infinite (negative : Bool)
  | finite (negative : Bool) (significand : Nat) (exponent : Int)
deriving DecidableEq, Repr

namespace Binary64

/-- The least exponent of a last place. -/
def minExponent : Int := -1074

/-- The greatest exponent of a last place. -/
def maxExponent : Int := 971

/-- The zero of a sign. -/
def zero (negative : Bool) : Binary64 :=
  .finite negative 0 minExponent

/-- The number with the given parts, or an infinity when the exponent is too large. -/
def ofParts (negative : Bool) (significand : Nat) (exponent : Int) : Binary64 :=
  if exponent > maxExponent then .infinite negative else .finite negative significand exponent

/-- `num / den` divided by `2 ^ q`, as a ratio. -/
def scaleDown (num den : Nat) (q : Int) : Nat × Nat :=
  if q < 0 then (num * Nat.pow 2 q.natAbs, den) else (num, den * Nat.pow 2 q.natAbs)

/-- The integer nearest to `num / den`; a tie goes to the even one. -/
def roundHalfEven (num den : Nat) : Nat :=
  let quotient := num / den
  let remainder := num % den
  if den < 2 * remainder ∨ (2 * remainder = den ∧ quotient % 2 = 1) then quotient + 1 else quotient

/-- The exponent of the last place of the numbers around a positive ratio. -/
def place (num den : Nat) : Int :=
  -- the last place holds between 52 and 54 bits at this exponent, and at most 53 one higher
  let low : Int := max ((num.log2 : Int) - den.log2 - 53) minExponent
  let (n, d) := scaleDown num den low
  if Nat.pow 2 53 ≤ n / d then low + 1 else low

/-- A ratio rounded to the last place at an exponent. -/
def roundAt (negative : Bool) (num den : Nat) (exponent : Int) : Binary64 :=
  let (n, d) := scaleDown num den exponent
  let significand := roundHalfEven n d
  if significand = Nat.pow 2 53 then ofParts negative (Nat.pow 2 52) (exponent + 1)
  else ofParts negative significand exponent

/-- The binary64 number nearest to `± num / den`; a tie goes to the even significand. -/
def nearest (negative : Bool) (num den : Nat) : Binary64 :=
  if num = 0 then zero negative else roundAt negative num den (place num den)

/-- The binary64 number nearest to `± coefficient * 10 ^ exponent`. -/
def ofDecimal (negative : Bool) (coefficient : Nat) (exponent : Int) : Binary64 :=
  -- outside these orders of magnitude the answer is known without forming the power of ten
  let magnitude := ((Nat.toDigits 10 coefficient).length : Int) + exponent
  if coefficient = 0 ∨ magnitude < -330 then zero negative
  else if 310 < magnitude then .infinite negative
  else if exponent < 0 then nearest negative coefficient (Nat.pow 10 exponent.natAbs)
  else nearest negative (coefficient * Nat.pow 10 exponent.natAbs) 1

/-- The nearest number to an integer, unless that is out of range. -/
def ofInt? (n : Int) : Option Binary64 :=
  match nearest (n < 0) n.natAbs 1 with
  | .infinite _ => none
  | x => some x

/-- The whole part of a magnitude. -/
private def wholePart (significand : Nat) (exponent : Int) : Nat :=
  if exponent < 0 then significand / Nat.pow 2 exponent.natAbs
  else significand * Nat.pow 2 exponent.natAbs

/-- Whether a finite magnitude is a whole number. -/
private def isWholePart (significand : Nat) (exponent : Int) : Bool :=
  0 ≤ exponent || significand % Nat.pow 2 exponent.natAbs == 0

/-- The integer next to a finite number in the direction of zero. -/
def truncate? : Binary64 → Option Int
  | .finite negative m q =>
    some (if negative then -(wholePart m q : Int) else (wholePart m q : Int))
  | _ => none

/-- Whether the number is finite and whole. -/
def isWhole : Binary64 → Bool
  | .finite _ m q => isWholePart m q
  | _ => false

/-- Whether the number is one of the two zeros. -/
def isZero : Binary64 → Bool
  | .finite _ m _ => m == 0
  | _ => false

/-- The order of a number and an integer; a number that is not a number has none. -/
def compareInt (x : Binary64) (n : Int) : Option Ordering :=
  match x with
  | .nan => none
  | .infinite negative => some (if negative then .lt else .gt)
  | .finite negative m q =>
    let signed : Int := if negative then -(m : Int) else (m : Int)
    some (if q < 0 then compare signed (n * Nat.pow 2 q.natAbs)
      else compare (signed * Nat.pow 2 q.natAbs) n)

/-- The number nearest to the sum of a number and an integer. -/
def addInt (x : Binary64) (n : Int) : Binary64 :=
  match x with
  | .finite negative m q =>
    let signed : Int := if negative then -(m : Int) else (m : Int)
    if q < 0 then
      let sum := signed + n * Nat.pow 2 q.natAbs
      nearest (sum < 0) sum.natAbs (Nat.pow 2 q.natAbs)
    else
      let sum := signed * Nat.pow 2 q.natAbs + n
      nearest (sum < 0) sum.natAbs 1
  | x => x

/-- The number nearest to the product of a number and a positive integer. -/
def scale (x : Binary64) (n : Nat) : Binary64 :=
  match x with
  | .finite negative m q =>
    if q < 0 then nearest negative (m * n) (Nat.pow 2 q.natAbs)
    else nearest negative (m * n * Nat.pow 2 q.natAbs) 1
  | x => x

/-- The quotient of a number and a positive integer, if it is a whole number.  It never needs more digits
than the number itself. -/
def wholeQuotient? (x : Binary64) (n : Nat) : Option Binary64 :=
  match x with
  | .finite negative m q =>
    let (num, den) := if q < 0 then (m, n * Nat.pow 2 q.natAbs) else (m * Nat.pow 2 q.natAbs, n)
    if num % den = 0 then some (nearest negative (num / den) 1) else none
  | _ => none

/-- Numeric equality: the two zeros are equal and a number that is not a number equals nothing. -/
def numericEq : Binary64 → Binary64 → Bool
  | .nan, _ => false
  | _, .nan => false
  | x, y => (x.isZero && y.isZero) || x == y

end Binary64

end MqttProfile
