import MqttProfile.Json.Reader
import MqttProfile.Toml.Basic

/-!
# Numbers, dates and truth values of TOML

Digits may have single underscores between them.  There may be arbitrarily many, except in a decimal
integer.  A date has to exist in the calendar.
-/

namespace MqttProfile.Toml

/-! ## Numbers -/

/-- The digits at the front that follow another digit, without the underscores between them. -/
def takeMoreDigits (isDigit : Char → Bool) : List Char → List Char × List Char
  | [] => ([], [])
  | '_' :: d :: rest =>
    if isDigit d then
      let (digits, rest) := takeMoreDigits isDigit rest
      (d :: digits, rest)
    else ([], '_' :: d :: rest)
  | d :: rest =>
    if isDigit d then
      let (digits, rest) := takeMoreDigits isDigit rest
      (d :: digits, rest)
    else ([], d :: rest)

/-- The digits at the front, without the underscores between them. -/
def takeDigits (isDigit : Char → Bool) : List Char → List Char × List Char
  | [] => ([], [])
  | d :: rest =>
    if isDigit d then
      let (digits, rest) := takeMoreDigits isDigit rest
      (d :: digits, rest)
    else ([], d :: rest)

/-- The number that digits of a base write. -/
def valueOfDigits (base : Nat) (digits : List Char) : Nat :=
  digits.foldl (fun n d => base * n + (Json.hexValue? d).getD 0) 0

/-- The base that a letter behind a zero announces. -/
def baseOfMark? : Char → Option Nat
  | 'x' => some 16
  | 'o' => some 8
  | 'b' => some 2
  | _ => none

/-- Whether a character is a digit of a base. -/
def isDigitOf (base : Nat) (c : Char) : Bool :=
  (Json.hexValue? c).any (· < base)

/-- Reads an integer that announces its base. -/
def readBased : List Char → Option (Toml × List Char)
  | '0' :: mark :: rest =>
    (baseOfMark? mark).bind fun base =>
      match takeDigits (isDigitOf base) rest with
      | ([], _) => none
      | (digits, rest) => some (.integer (valueOfDigits base digits), rest)
  | _ => none

/-- Splits a sign off. -/
def takeSign : List Char → List Char × List Char
  | '+' :: rest => (['+'], rest)
  | '-' :: rest => (['-'], rest)
  | rest => ([], rest)

/-- Splits the digits before the point off: a zero alone, or digits that start with none. -/
def takeWhole : List Char → List Char × List Char
  | '0' :: rest => (['0'], rest)
  | rest => takeDigits Char.isDigit rest

/-- Splits a fraction off: a point and at least one digit. -/
def takeFractionPart : List Char → List Char × List Char
  | '.' :: rest =>
    match takeDigits Char.isDigit rest with
    | ([], _) => ([], '.' :: rest)
    | (digits, rest) => ('.' :: digits, rest)
  | rest => ([], rest)

/-- Splits an exponent off: its mark, a sign or none, and at least one digit. -/
def takeExponentPart : List Char → List Char × List Char
  | [] => ([], [])
  | mark :: rest =>
    if mark = 'e' ∨ mark = 'E' then
      let (sign, digits) := takeSign rest
      match takeDigits Char.isDigit digits with
      | ([], _) => ([], mark :: rest)
      | (digits, rest) => (mark :: sign ++ digits, rest)
    else ([], mark :: rest)

/-- A decimal number in its parts; its fraction and its exponent may be empty. -/
structure Decimal where
  sign : List Char
  whole : List Char
  fraction : List Char
  exponent : List Char

/-- Splits a decimal number off. -/
def takeDecimal? (cs : List Char) : Option (Decimal × List Char) :=
  let (sign, rest) := takeSign cs
  let (whole, rest) := takeWhole rest
  if whole.isEmpty then none
  else
    let (fraction, rest) := takeFractionPart rest
    let (exponent, rest) := takeExponentPart rest
    some (⟨sign, whole, fraction, exponent⟩, rest)

namespace Decimal

/-- The integer that the sign and the digits before the point write. -/
def integer (d : Decimal) : Except Failure Int :=
  if Text.digitLimit < d.whole.length then .error .tooLong
  else
    let n := valueOfDigits 10 d.whole
    .ok (if d.sign = ['-'] then -(n : Int) else (n : Int))

/-- The value of a decimal number: an integer unless it has a fraction or an exponent. -/
def value (d : Decimal) : Except Failure Toml :=
  if d.fraction.isEmpty && d.exponent.isEmpty then d.integer.map .integer
  else demand ((Binary64.read? (d.sign ++ d.whole ++ d.fraction ++ d.exponent)).map .float)

end Decimal

/-- Reads the name of an infinite number, or of none, behind a sign. -/
def readSpecial (cs : List Char) : Option (Toml × List Char) :=
  let (sign, rest) := takeSign cs
  match rest with
  | 'i' :: 'n' :: 'f' :: rest => some (.float (.infinite (sign = ['-'])), rest)
  | 'n' :: 'a' :: 'n' :: rest => some (.float .nan, rest)
  | _ => none

/-! ## Dates and times -/

def twoDigits? (a b : Char) : Option Nat :=
  if a.isDigit && b.isDigit then some (valueOfDigits 10 [a, b]) else none

def fourDigits? (a b c d : Char) : Option Nat :=
  (twoDigits? a b).bind fun high => (twoDigits? c d).map fun low => 100 * high + low

/-- A number within bounds. -/
def between? (low high : Nat) (n : Nat) : Option Nat :=
  if low ≤ n ∧ n ≤ high then some n else none

def isLeap (year : Nat) : Bool :=
  year % 4 == 0 && (year % 100 != 0 || year % 400 == 0)

def daysOfMonth (year month : Nat) : Nat :=
  if month = 2 then if isLeap year then 29 else 28
  else if month = 4 ∨ month = 6 ∨ month = 9 ∨ month = 11 then 30
  else 31

/-- A day by year, month and day of the month. -/
structure Date where
  year : Nat
  month : Nat
  day : Nat
deriving DecidableEq, Repr

/-- Whether a date is in the calendar, which starts with the year one. -/
def Date.inCalendar (date : Date) : Bool :=
  1 ≤ date.year && date.day ≤ daysOfMonth date.year date.month

/-- Reads what has the form of a date. -/
def readDate : List Char → Option (Date × List Char)
  | y₁ :: y₂ :: y₃ :: y₄ :: '-' :: m₁ :: m₂ :: '-' :: d₁ :: d₂ :: rest => do
    let year ← fourDigits? y₁ y₂ y₃ y₄
    let month ← (twoDigits? m₁ m₂).bind (between? 1 12)
    let day ← (twoDigits? d₁ d₂).bind (between? 1 31)
    return (⟨year, month, day⟩, rest)
  | _ => none

/-- The text behind the fraction of a second. -/
def skipSecondFraction : List Char → List Char
  | '.' :: d :: rest => if d.isDigit then rest.dropWhile Char.isDigit else '.' :: d :: rest
  | rest => rest

/-- The text behind a time of day. -/
def skipTime? : List Char → Option (List Char)
  | h₁ :: h₂ :: ':' :: m₁ :: m₂ :: ':' :: s₁ :: s₂ :: rest => do
    let _ ← (twoDigits? h₁ h₂).bind (between? 0 23)
    let _ ← (twoDigits? m₁ m₂).bind (between? 0 59)
    let _ ← (twoDigits? s₁ s₂).bind (between? 0 59)
    return skipSecondFraction rest
  | _ => none

/-- The text behind an offset from universal time, if there is one. -/
def skipOffset (cs : List Char) : List Char :=
  match cs with
  | 'Z' :: rest | 'z' :: rest => rest
  | sign :: h₁ :: h₂ :: ':' :: m₁ :: m₂ :: rest =>
    match (twoDigits? h₁ h₂).bind (between? 0 23), (twoDigits? m₁ m₂).bind (between? 0 59) with
    | some _, some _ => if sign = '+' ∨ sign = '-' then rest else cs
    | _, _ => cs
  | _ => cs

/-- The text behind the time that may follow a date. -/
def skipTimeOfDate (cs : List Char) : List Char :=
  match cs with
  | mark :: rest =>
    if mark = 'T' ∨ mark = 't' ∨ mark = ' ' then ((skipTime? rest).map skipOffset).getD cs else cs
  | [] => []

/-! ## All of them -/

/-- Reads a number. -/
def readNumber (cs : List Char) : Except Failure (Toml × List Char) :=
  match readBased cs with
  | some read => .ok read
  | none =>
    match takeDecimal? cs with
    | some (d, rest) => d.value.map fun value => (value, rest)
    | none => demand (readSpecial cs)

/-- Reads a value that is neither a string nor a container. -/
def readScalar (cs : List Char) : Except Failure (Toml × List Char) :=
  match cs with
  | 't' :: 'r' :: 'u' :: 'e' :: rest => .ok (.boolean true, rest)
  | 'f' :: 'a' :: 'l' :: 's' :: 'e' :: rest => .ok (.boolean false, rest)
  | cs =>
    match readDate cs with
    | some (date, rest) =>
      if date.inCalendar then .ok (.moment, skipTimeOfDate rest) else .error .malformed
    | none =>
      match skipTime? cs with
      | some rest => .ok (.moment, rest)
      | none => readNumber cs

end MqttProfile.Toml
