import MqttProfile.Binary64.Reader
import MqttProfile.Json.Number

/-!
# Lenient intake of declared fields

A document with declared fields is read field by field: a missing field takes its default, unknown
members are ignored, and every field that does not fit is reported, in the order of declaration.  A
field that fits loosely is converted, for instance a text that writes an integer.
-/

namespace MqttProfile

/-- The ways in which a field can fail to fit its declaration. -/
inductive IssueKind where
  | boolParsing
  | boolType
  | intParsing
  | intParsingSize
  | intType
  | intFromFloat
  | finiteNumber
  | floatParsing
  | floatType
  | stringType
  | literalError
  | modelType
deriving DecidableEq, Repr

/-- The name under which an issue is reported. -/
def IssueKind.tag : IssueKind → String
  | .boolParsing => "bool_parsing"
  | .boolType => "bool_type"
  | .intParsing => "int_parsing"
  | .intParsingSize => "int_parsing_size"
  | .intType => "int_type"
  | .intFromFloat => "int_from_float"
  | .finiteNumber => "finite_number"
  | .floatParsing => "float_parsing"
  | .floatType => "float_type"
  | .stringType => "string_type"
  | .literalError => "literal_error"
  | .modelType => "model_type"

/-- A field that does not fit, by the names that lead to it. -/
structure Issue where
  path : List String
  kind : IssueKind
deriving DecidableEq, Repr

/-- A value, or all the issues that stand in its way. -/
abbrev Intake (α : Type) := Except (List Issue) α

namespace Intake

/-- The failure with one issue at the value itself. -/
def refuse {α : Type} (kind : IssueKind) : Intake α :=
  .error [⟨[], kind⟩]

/-- Applies a function that was taken in to one more field; issues of both are kept in order. -/
def also {α β : Type} (f : Intake (α → β)) (x : Intake α) : Intake β :=
  match f, x with
  | .ok f, .ok x => .ok (f x)
  | .ok _, .error issues => .error issues
  | .error issues, .ok _ => .error issues
  | .error issues, .error more => .error (issues ++ more)

/-- Puts a name in front of the path of each issue. -/
def within {α : Type} (name : String) : Intake α → Intake α
  | .ok x => .ok x
  | .error issues => .error (issues.map fun issue => { issue with path := name :: issue.path })

/-- Reads the member that has the first of the given names to be there, or takes the default. -/
def field {α : Type} (members : Json.Members) (names : List String) (default : α)
    (read : Json → Intake α) : Intake α :=
  match names with
  | [] => .ok default
  | name :: names =>
    match Json.lookup name members with
    | some value => within name (read value)
    | none => field members names default read

/-- Reads a document, which has to be an object. -/
def document {α : Type} (read : Json.Members → Intake α) : Json → Intake α
  | .obj members => read members
  | _ => refuse .modelType

/-! ## Texts and choices -/

/-- A text. -/
def text : Json → Intake String
  | .str s => .ok s
  | _ => refuse .stringType

/-- One of a fixed list of texts, each with its meaning. -/
def choice {α : Type} (choices : List (String × α)) : Json → Intake α
  | .str s => match List.lookup s choices with
    | some x => .ok x
    | none => refuse .literalError
  | _ => refuse .literalError

/-- A value that may be null. -/
def nullable {α : Type} (read : Json → Intake α) : Json → Intake (Option α)
  | .null => .ok none
  | value => (read value).map some

/-! ## Integers -/

/-- The text without the underscores that stand singly inside it; other underscores stay. -/
private def dropUnderscores (cs : List Char) : List Char :=
  if cs.head? = some '_' ∨ cs.getLast? = some '_' ∨ Text.occursIn ['_', '_'] cs then cs
  else cs.filter (· != '_')

/-- What follows the zeros and underscores at the front of a number; the last of them stays when it is
the whole number or stands before the point, and a minus sign may stand behind them. -/
private def dropLeadingZeros (last : Char) : List Char → Option (List Char)
  | [] => some [last]
  | c :: cs =>
    if c = '0' ∨ c = '_' then dropLeadingZeros c cs
    else if c = '.' then some (last :: c :: cs)
    else if c = '-' ∨ c.isDigit then some (c :: cs)
    else none

/-- A number behind its sign, without the zeros at its front; it has to start with a digit. -/
private def normalizeFront : List Char → Option (List Char)
  | '0' :: cs => dropLeadingZeros '0' cs
  | c :: cs => if c.isDigit then some (c :: cs) else none
  | [] => none

/-- The number without a point and the zeros that follow it, if there are some and nothing else. -/
private def dropZeroFraction (cs : List Char) : List Char :=
  match cs.span (· != '.') with
  | (whole, '.' :: fraction) =>
    if !fraction.isEmpty && fraction.all (· == '0') then whole else cs
  | _ => cs

/-- Splits a minus sign off. -/
private def takeMinus : List Char → List Char × List Char
  | '-' :: rest => (['-'], rest)
  | rest => ([], rest)

/-- The integer that is written with a minus sign or none and without a leading zero.  A sign and digits
that are too many are reported before what follows them is looked at. -/
private def plainInt (cs : List Char) : Intake Int :=
  let (sign, rest) := takeMinus cs
  let (digits, rest) := Binary64.spanDigits rest
  if digits.head? = some '0' ∧ digits.length ≠ 1 then refuse .intParsing
  else if Text.digitLimit < sign.length + digits.length then refuse .intParsingSize
  else if digits.isEmpty || !rest.isEmpty then refuse .intParsing
  else
    let n := Binary64.digitsValue digits
    .ok (if sign.isEmpty then (n : Int) else -(n : Int))

/-- The integer that a text writes, with white space around it, a plus sign, leading zeros, single
underscores and a fraction of zeros allowed.  The minus sign stands in front of the leading zeros or
behind them. -/
def readLenientInt (s : String) : Intake Int :=
  let (sign, cs) := match Text.stripBy Text.isSpace s.toList with
    | '+' :: rest => ([], rest)
    | rest => takeMinus rest
  match normalizeFront cs with
  | some cs => plainInt (sign ++ dropUnderscores (dropZeroFraction cs))
  | none => refuse .intParsing

/-- The bound on the integers of a machine word of 64 bits with a sign. -/
def wordBound : Int := Nat.pow 2 63

/-- The integer that a whole number is, if it lies strictly between the bounds of a machine word. -/
def wholeNumber (x : Binary64) : Intake Int :=
  match x.truncate? with
  | none => refuse .finiteNumber
  | some n =>
    if !x.isWhole then refuse .intFromFloat
    else if -wordBound < n ∧ n < wordBound then .ok n
    else refuse .intParsingSize

/-- An integer: itself, a truth value, a whole number or a text that writes one. -/
def int : Json → Intake Int
  | .bool b => .ok (Json.ofBit b)
  | .int n => .ok n
  | .float x => wholeNumber x
  | .str s => readLenientInt s
  | _ => refuse .intType

/-! ## Truth values -/

/-- The words for false and true, in lower case. -/
def truthWords : List (String × Bool) :=
  [("0", false), ("off", false), ("f", false), ("false", false), ("n", false), ("no", false),
   ("1", true), ("on", true), ("t", true), ("true", true), ("y", true), ("yes", true)]

/-- The truth value that is written as one or zero; any other integer names none. -/
private def bit (n : Int) : Intake Bool :=
  if n = 0 then .ok false else if n = 1 then .ok true else refuse .boolParsing

/-- A truth value: itself, one or zero, or a word for it in any case.  A number that is no integer of a
machine word is of the wrong kind. -/
def bool : Json → Intake Bool
  | .bool b => .ok b
  | .int n => if -wordBound ≤ n ∧ n < wordBound then bit n else refuse .boolType
  | .float x => match wholeNumber x with
    | .ok n => bit n
    | .error _ => refuse .boolType
  | .str s => match List.lookup (String.ofList (s.toList.map Char.toLower)) truthWords with
    | some b => .ok b
    | none => refuse .boolParsing
  | _ => refuse .boolType

/-! ## Numbers -/

/-- A binary64 number: itself, an integer in its range, a truth value or a text that writes one.  The
text may have white space around it or single underscores inside it, but not both. -/
def number : Json → Intake Binary64
  | .float x => .ok x
  | .bool b => .ok (Binary64.nearest false (Json.ofBit b).natAbs 1)
  | .int n => match Binary64.ofInt? n with
    | some x => .ok x
    | none => refuse .floatType
  | .str s =>
    match (Binary64.read? (Text.stripBy Text.isSpace s.toList)).or
        (Binary64.read? (dropUnderscores s.toList)) with
    | some x => .ok x
    | none => refuse .floatParsing
  | _ => refuse .floatType

end Intake

end MqttProfile
