import MqttProfile.Binary64.Basic
import MqttProfile.Text.Number

/-!
# Reading a binary64 number from text

The text is an optional sign followed by `inf`, `infinity` or `nan` in any case, or by decimal digits
with at most one point among them and an optional exponent.  The answer is the nearest number.  A text
that a person wrote may also have white space around it, digits of any script, and single underscores
between digits.
-/

namespace MqttProfile.Binary64

/-- The longest run of ASCII digits at the front, and the rest. -/
def spanDigits (cs : List Char) : List Char × List Char :=
  cs.span Char.isDigit

/-- The number that a run of ASCII digits writes. -/
def digitsValue (digits : List Char) : Nat :=
  Nat.ofDigitChars 10 digits 0

/-- The value of an exponent without its mark. -/
def exponent? (cs : List Char) : Option Int :=
  let (negative, digits) := match cs with
    | '-' :: rest => (true, rest)
    | '+' :: rest => (false, rest)
    | rest => (false, rest)
  if digits.isEmpty || !digits.all Char.isDigit then none
  else some (if negative then -(digitsValue digits : Int) else (digitsValue digits : Int))

/-- Reads digits, a point and an exponent. -/
def unsigned? (negative : Bool) (cs : List Char) : Option Binary64 :=
  let (whole, rest) := spanDigits cs
  let (fraction, rest) := match rest with
    | '.' :: rest => spanDigits rest
    | rest => ([], rest)
  if whole.isEmpty && fraction.isEmpty then none
  else
    let number (e : Int) :=
      some (ofDecimal negative (digitsValue (whole ++ fraction)) (e - fraction.length))
    match rest with
    | [] => number 0
    | mark :: rest =>
      if mark == 'e' || mark == 'E' then (exponent? rest).bind number else none

/-- The number that a text without blanks writes. -/
def read? (cs : List Char) : Option Binary64 :=
  let (negative, rest) := match cs with
    | '-' :: rest => (true, rest)
    | '+' :: rest => (false, rest)
    | rest => (false, rest)
  let word := String.ofList (rest.map Char.toLower)
  if word = "inf" ∨ word = "infinity" then some (.infinite negative)
  else if word = "nan" then some .nan
  else unsigned? negative rest

/-- The text without its underscores, if each of them stands between two digits. -/
private def joinDigits? (behindDigit : Bool) : List Char → Option (List Char)
  | '_' :: c :: cs => if behindDigit && c.isDigit then (joinDigits? true cs).map (c :: ·) else none
  | ['_'] => none
  | c :: cs => (joinDigits? c.isDigit cs).map (c :: ·)
  | [] => some []

/-- The number that a text writes. -/
def ofText? (s : String) : Option Binary64 :=
  let cs := (Text.stripBy Text.isSpace s.toList).map Text.plainDigit
  (joinDigits? false cs).bind read?

end MqttProfile.Binary64
