import MqttProfile.Json.Basic
import MqttProfile.Binary64.Reader

/-!
# Reading JSON text

The text is JSON with three more numbers, `NaN`, `Infinity` and `-Infinity`.  A number without a point
and an exponent is an integer, every other number is the nearest binary64.  Of members with one name the
first gives the place and the last the value.  Control characters inside strings, trailing commas and
anything after the value are refused.  An integer with too many digits is refused too, as a bad value and
as soon as it is met, whatever comes after it.

Each function takes the text as a list of characters and answers a value with the rest of the text.
The reader of values is driven by fuel; a text of `n` characters never needs more than `n + 1`.
-/

namespace MqttProfile.Json

/-- The blanks of JSON. -/
def isJsonBlank (c : Char) : Bool :=
  c == ' ' || c == '\t' || c == '\n' || c == '\r'

/-- The text after the blanks at its front. -/
def skipBlanks (cs : List Char) : List Char :=
  cs.dropWhile isJsonBlank

/-! ## Strings -/

/-- The value of a hexadecimal digit. -/
def hexValue? (c : Char) : Option Nat :=
  if c.isDigit then some (c.toNat - '0'.toNat)
  else if 'a' ≤ c ∧ c ≤ 'f' then some (c.toNat - 'a'.toNat + 10)
  else if 'A' ≤ c ∧ c ≤ 'F' then some (c.toNat - 'A'.toNat + 10)
  else none

/-- The UTF-16 unit that four hexadecimal digits write. -/
def unitOfHex? (a b c d : Char) : Option Nat := do
  let a ← hexValue? a
  let b ← hexValue? b
  let c ← hexValue? c
  let d ← hexValue? d
  return 4096 * a + 256 * b + 16 * c + d

/-- Whether a UTF-16 unit is the first half of a pair. -/
def isHighUnit (unit : Nat) : Bool := 0xD800 ≤ unit && unit ≤ 0xDBFF

/-- Whether a UTF-16 unit is the second half of a pair. -/
def isLowUnit (unit : Nat) : Bool := 0xDC00 ≤ unit && unit ≤ 0xDFFF

/-- The character of a unit that stands alone; half a pair has none and gives U+FFFD. -/
def charOfUnit (unit : Nat) : Char :=
  if isHighUnit unit || isLowUnit unit then '\uFFFD' else Char.ofNat unit

/-- The character of a pair of units. -/
def charOfPair (high low : Nat) : Char :=
  Char.ofNat (0x10000 + (high - 0xD800) * 0x400 + (low - 0xDC00))

/-- The character that follows a backslash in an escape of two characters. -/
def shortEscape? (c : Char) : Option Char :=
  if c = '"' then some '"'
  else if c = '\\' then some '\\'
  else if c = '/' then some '/'
  else if c = 'b' then some '\x08'
  else if c = 'f' then some '\x0c'
  else if c = 'n' then some '\n'
  else if c = 'r' then some '\r'
  else if c = 't' then some '\t'
  else none

/-- A part of a string between its quotes: a character, or a UTF-16 unit that was written as an
escape. -/
inductive Piece where
  | char (c : Char)
  | unit (u : Nat)

/-- The characters of the pieces: two units that form a pair give one character. -/
def joinPieces : List Piece → List Char
  | [] => []
  | .char c :: rest => c :: joinPieces rest
  | .unit high :: .unit low :: rest =>
    if isHighUnit high && isLowUnit low then charOfPair high low :: joinPieces rest
    else charOfUnit high :: joinPieces (.unit low :: rest)
  | .unit u :: rest => charOfUnit u :: joinPieces rest
termination_by structural pieces => pieces

/-- Puts a piece in front of the pieces that were read. -/
def consPiece (piece : Piece) : List Piece × List Char → List Piece × List Char
  | (pieces, rest) => (piece :: pieces, rest)

/-- Reads the pieces of a string up to and including its closing quote. -/
def readPieces : List Char → Option (List Piece × List Char)
  | '"' :: rest => some ([], rest)
  | '\\' :: 'u' :: a :: b :: c :: d :: rest =>
    (unitOfHex? a b c d).bind fun u => (readPieces rest).map (consPiece (.unit u))
  | '\\' :: c :: rest =>
    (shortEscape? c).bind fun escaped => (readPieces rest).map (consPiece (.char escaped))
  | c :: rest =>
    if c.toNat < 0x20 then none else (readPieces rest).map (consPiece (.char c))
  | [] => none
termination_by structural cs => cs

/-- Reads a string up to and including its closing quote. -/
def readString (cs : List Char) : Option (List Char × List Char) :=
  (readPieces cs).map fun (pieces, rest) => (joinPieces pieces, rest)

/-! ## Numbers -/

/-- Splits a fraction off: a point and at least one digit. -/
def takeFraction : List Char → List Char × List Char
  | '.' :: rest =>
    match Binary64.spanDigits rest with
    | ([], _) => ([], '.' :: rest)
    | (digits, rest) => ('.' :: digits, rest)
  | rest => ([], rest)

/-- Splits an exponent off: its mark, a sign or none, and at least one digit. -/
def takeExponent : List Char → List Char × List Char
  | [] => ([], [])
  | mark :: rest =>
    if mark = 'e' ∨ mark = 'E' then
      let (sign, digits) := match rest with
        | '+' :: rest => (['+'], rest)
        | '-' :: rest => (['-'], rest)
        | rest => ([], rest)
      match Binary64.spanDigits digits with
      | ([], _) => ([], mark :: rest)
      | (digits, rest) => (mark :: sign ++ digits, rest)
    else ([], mark :: rest)

/-- What was read, or the fault of a text that is not JSON. -/
def orMalformed {α : Type} : Option α → Except Fault α
  | some x => .ok x
  | none => .error .malformedJson

/-- Reads the digits of a number and what follows them. -/
def readUnsigned (negative : Bool) (cs : List Char) : Except Fault (Json × List Char) :=
  let (whole, rest) := match cs with
    | '0' :: rest => (['0'], rest)
    | cs => Binary64.spanDigits cs
  if whole.isEmpty then .error .malformedJson
  else
    let (fraction, rest) := takeFraction rest
    let (exponent, rest) := takeExponent rest
    if fraction.isEmpty && exponent.isEmpty then
      if Text.digitLimit < whole.length then .error .badValue
      else
        let n := Binary64.digitsValue whole
        .ok (.int (if negative then -(n : Int) else (n : Int)), rest)
    else
      let sign := if negative then ['-'] else []
      orMalformed ((Binary64.read? (sign ++ whole ++ fraction ++ exponent)).map fun x => (.float x, rest))

/-! ## Values -/

mutual

/-- Reads a value that starts at the front of the text. -/
def readValue : Nat → List Char → Except Fault (Json × List Char)
  | 0, _ => .error .malformedJson
  | fuel + 1, cs =>
    match cs with
    | '"' :: rest =>
      (orMalformed (readString rest)).map fun (body, rest) => (.str (String.ofList body), rest)
    | '[' :: rest =>
      match skipBlanks rest with
      | ']' :: rest => .ok (.arr [], rest)
      | rest => (readItems fuel rest).map fun (items, rest) => (.arr items, rest)
    | '\x7b' :: rest =>
      match skipBlanks rest with
      | '\x7d' :: rest => .ok (.obj [], rest)
      | rest =>
        (readMembers fuel rest).map fun (members, rest) =>
          (.obj (members.foldl (fun object (key, value) => insert key value object) []), rest)
    | 'n' :: 'u' :: 'l' :: 'l' :: rest => .ok (.null, rest)
    | 't' :: 'r' :: 'u' :: 'e' :: rest => .ok (.bool true, rest)
    | 'f' :: 'a' :: 'l' :: 's' :: 'e' :: rest => .ok (.bool false, rest)
    | 'N' :: 'a' :: 'N' :: rest => .ok (.float .nan, rest)
    | 'I' :: 'n' :: 'f' :: 'i' :: 'n' :: 'i' :: 't' :: 'y' :: rest =>
      .ok (.float (.infinite false), rest)
    | '-' :: 'I' :: 'n' :: 'f' :: 'i' :: 'n' :: 'i' :: 't' :: 'y' :: rest =>
      .ok (.float (.infinite true), rest)
    | '-' :: rest => readUnsigned true rest
    | rest => readUnsigned false rest

/-- Reads items separated by commas up to and including the closing bracket. -/
def readItems : Nat → List Char → Except Fault (List Json × List Char)
  | 0, _ => .error .malformedJson
  | fuel + 1, cs =>
    (readValue fuel cs).bind fun (item, rest) =>
      match skipBlanks rest with
      | ']' :: rest => .ok ([item], rest)
      | ',' :: rest =>
        (readItems fuel (skipBlanks rest)).map fun (items, rest) => (item :: items, rest)
      | _ => .error .malformedJson

/-- Reads members separated by commas up to and including the closing brace. -/
def readMembers : Nat → List Char → Except Fault (Members × List Char)
  | 0, _ => .error .malformedJson
  | fuel + 1, cs =>
    match cs with
    | '"' :: rest =>
      (orMalformed (readString rest)).bind fun (key, rest) =>
        match skipBlanks rest with
        | ':' :: rest =>
          (readValue fuel (skipBlanks rest)).bind fun (value, rest) =>
            match skipBlanks rest with
            | '\x7d' :: rest => .ok ([(String.ofList key, value)], rest)
            | ',' :: rest =>
              (readMembers fuel (skipBlanks rest)).map fun (members, rest) =>
                ((String.ofList key, value) :: members, rest)
            | _ => .error .malformedJson
        | _ => .error .malformedJson
    | _ => .error .malformedJson

end

/-- The value of a text that is one JSON value with blanks around it. -/
def read (cs : List Char) : Except Fault Json :=
  (readValue (cs.length + 1) (skipBlanks cs)).bind fun (value, rest) =>
    if (skipBlanks rest).isEmpty then .ok value else .error .malformedJson

/-- Reads a JSON text. -/
def ofText (s : String) : Except Fault Json := read s.toList

end MqttProfile.Json
