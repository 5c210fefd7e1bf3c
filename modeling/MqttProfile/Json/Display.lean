import MqttProfile.Json.Printer
import MqttProfile.Text.Printable

/-!
# Values inside messages

The text that stands for a value in a message, an identifier or a name.  A string stands for itself;
inside an array or an object it is quoted, with a single quote unless only that one occurs in it.  A value
that holds an integer with too many digits cannot be shown.
-/

namespace MqttProfile.Json

/-- The hexadecimal digits of a number in lower case, padded with zeros to a width. -/
private def paddedHex (width n : Nat) : List Char :=
  let digits := Nat.toDigits 16 n
  List.replicate (width - digits.length) '0' ++ digits

/-- A character inside quotes of the given kind. -/
def quotedChar (mark c : Char) : List Char :=
  if c = mark ∨ c = '\\' then ['\\', c]
  else if c = '\n' then ['\\', 'n']
  else if c = '\r' then ['\\', 'r']
  else if c = '\t' then ['\\', 't']
  else if Text.isPrintable c then [c]
  else if c.toNat < 0x100 then '\\' :: 'x' :: paddedHex 2 c.toNat
  else if c.toNat < 0x10000 then '\\' :: 'u' :: paddedHex 4 c.toNat
  else '\\' :: 'U' :: paddedHex 8 c.toNat

/-- A string in quotes: double ones when it holds a single quote and no double one. -/
def quotedText (s : String) : List Char :=
  let mark := if s.toList.contains '\'' && !s.toList.contains '"' then '"' else '\''
  mark :: s.toList.flatMap (quotedChar mark) ++ [mark]

mutual

/-- The text of a value that stands inside another one. -/
def displayNested : Json → List Char
  | .null => "None".toList
  | .bool true => "True".toList
  | .bool false => "False".toList
  | .int n => Text.ofInt n
  | .float x => x.render Binary64.plainNames
  | .str s => quotedText s
  | .arr [] => ['[', ']']
  | .arr (item :: items) => '[' :: displayNested item ++ displayItems items
  | .obj [] => ['\x7b', '\x7d']
  | .obj ((key, value) :: members) =>
    '\x7b' :: quotedText key ++ [':', ' '] ++ displayNested value ++ displayMembers members

/-- The rest of an array after its first item. -/
def displayItems : List Json → List Char
  | [] => [']']
  | item :: items => [',', ' '] ++ displayNested item ++ displayItems items

/-- The rest of an object after its first member. -/
def displayMembers : Members → List Char
  | [] => ['\x7d']
  | (key, value) :: members =>
    [',', ' '] ++ quotedText key ++ [':', ' '] ++ displayNested value ++ displayMembers members

end

/-- The text that stands for a value, whatever integers it holds. -/
def display : Json → String
  | .str s => s
  | value => String.ofList value.displayNested

/-- The text that stands for a value that can be written. -/
def shown (value : Json) : Except Fault String :=
  if value.writable then .ok value.display else .error .badValue

theorem shown_of_writable {value : Json} (h : value.writable = true) :
    value.shown = .ok value.display :=
  if_pos h

theorem shown_of_not_writable {value : Json} (h : value.writable = false) :
    value.shown = .error .badValue :=
  if_neg (by simp [h])

@[simp]
theorem shown_str (s : String) : (Json.str s).shown = .ok s := by
  simp [shown, writable, display]

end MqttProfile.Json
