import MqttProfile.Fault
import MqttProfile.Text.Blank

/-!
# Integers as text

Writing is decimal digits with a leading minus sign.  Reading allows white space around the number, a
sign, decimal digits of any script and single underscores between digits.  In both directions an integer
may not have arbitrarily many digits: one that has too many cannot be written, whatever it is written for.
`decimal` is the text that an integer has in itself, `write` the one that a program gets.  Powers are written
`Nat.pow`, which means the same whatever else is in scope.
-/

namespace MqttProfile.Text

/-- The code points of the zeros of the decimal digits (Unicode category `Nd`); the nine code points
after each are the digits one to nine of the same script. -/
def digitZeros : List Nat :=
  [0x30, 0x660, 0x6F0, 0x7C0, 0x966, 0x9E6, 0xA66, 0xAE6, 0xB66, 0xBE6, 0xC66, 0xCE6, 0xD66, 0xDE6,
   0xE50, 0xED0, 0xF20, 0x1040, 0x1090, 0x17E0, 0x1810, 0x1946, 0x19D0, 0x1A80, 0x1A90, 0x1B50,
   0x1BB0, 0x1C40, 0x1C50, 0xA620, 0xA8D0, 0xA900, 0xA9D0, 0xA9F0, 0xAA50, 0xABF0, 0xFF10, 0x104A0,
   0x10D30, 0x11066, 0x110F0, 0x11136, 0x111D0, 0x112F0, 0x11450, 0x114D0, 0x11650, 0x116C0, 0x11730,
   0x118E0, 0x11950, 0x11C50, 0x11D50, 0x11DA0, 0x16A60, 0x16AC0, 0x16B50, 0x1D7CE, 0x1D7D8, 0x1D7E2,
   0x1D7EC, 0x1D7F6, 0x1E140, 0x1E2F0, 0x1E950, 0x1FBF0]

/-- The value of a decimal digit of any script. -/
def digitValue? (c : Char) : Option Nat :=
  (digitZeros.find? fun start => start ≤ c.toNat && c.toNat < start + 10).map (c.toNat - ·)

/-- The ASCII digit of the value of a decimal digit of any script; any other character stays. -/
def plainDigit (c : Char) : Char :=
  match digitValue? c with
  | some d => Nat.digitChar d
  | none => c

/-- The decimal digits of a natural number. -/
def ofNat (n : Nat) : List Char :=
  Nat.toDigits 10 n

/-- The decimal digits of an integer, after a minus sign if it is negative. -/
def ofInt (n : Int) : List Char :=
  if n < 0 then '-' :: ofNat n.natAbs else ofNat n.natAbs

/-- An integer in decimal, however many digits it has. -/
def decimal (n : Int) : String :=
  String.ofList (ofInt n)

/-- The most digits that an integer in a text may have, leading zeros included. -/
def digitLimit : Nat := 4300

/-- Whether an integer can be written; its sign is no digit. -/
def writable (n : Int) : Bool :=
  (ofNat n.natAbs).length ≤ digitLimit

/-- Writes an integer in decimal. -/
def write (n : Int) : Except Fault String :=
  if writable n then .ok (decimal n) else .error .badValue

theorem length_ofNat_le_iff {n k : Nat} (h : 0 < k) : (ofNat n).length ≤ k ↔ n < Nat.pow 10 k :=
  Nat.length_toDigits_le_iff (by decide) h

theorem writable_iff {n : Int} : writable n = true ↔ n.natAbs < Nat.pow 10 digitLimit := by
  rw [writable, decide_eq_true_iff]
  exact length_ofNat_le_iff (by decide)

theorem write_of_writable {n : Int} (h : writable n = true) : write n = .ok (decimal n) :=
  if_pos h

theorem write_of_not_writable {n : Int} (h : writable n = false) : write n = .error .badValue :=
  if_neg (by simp [h])

theorem not_writable_of_le {n : Int} (h : Nat.pow 10 digitLimit ≤ n.natAbs) : writable n = false := by
  rw [← Bool.not_eq_true, writable_iff]
  exact Nat.not_lt.mpr h

/-- The power of ten that has the limit as its exponent is the least number that cannot be written. -/
theorem not_writable_pow : writable (Nat.pow 10 digitLimit) = false :=
  not_writable_of_le (Nat.le_of_eq (Int.natAbs_natCast _).symm)

/-- Reads the digits that follow the number `n`. -/
private def readMoreDigits (n : Nat) : List Char → Option Nat
  | [] => some n
  | '_' :: c :: cs => (digitValue? c).bind fun d => readMoreDigits (10 * n + d) cs
  | c :: cs => (digitValue? c).bind fun d => readMoreDigits (10 * n + d) cs

/-- The number written by digits with single underscores between them. -/
def readDigits (cs : List Char) : Option Nat :=
  if digitLimit < cs.countP (· != '_') then none
  else match cs with
    | [] => none
    | c :: cs => (digitValue? c).bind fun d => readMoreDigits d cs

/-- The integer that a text writes, with white space allowed around it. -/
def readInt (s : String) : Option Int :=
  match stripBy isSpace s.toList with
  | '-' :: cs => (readDigits cs).map fun n => -(n : Int)
  | '+' :: cs => (readDigits cs).map Int.ofNat
  | cs => (readDigits cs).map Int.ofNat

end MqttProfile.Text
