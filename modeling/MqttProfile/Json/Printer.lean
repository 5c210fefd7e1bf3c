import MqttProfile.Json.Basic
import MqttProfile.Binary64.Shortest

/-!
# Writing JSON text

One printer with two styles.  `compact` puts nothing between tokens and keeps every character from the
blank on; `spaced` puts a blank after each comma and colon and writes the characters behind the tilde as
escapes of their UTF-16 units, so that its text is printable ASCII.  A value that holds an integer with too
many digits has a text, but it cannot be written.
-/

namespace MqttProfile.Json

/-- The decisions of a JSON text that leave its value alone. -/
structure Style where
  /-- What stands between two items. -/
  comma : List Char
  /-- What stands between a member's name and its value. -/
  colon : List Char
  /-- Whether the characters behind the tilde are escaped. -/
  asciiOnly : Bool

/-- No blanks, and characters behind the tilde as they are. -/
def compact : Style := ⟨[','], [':'], false⟩

/-- A blank after each comma and colon, and printable ASCII only. -/
def spaced : Style := ⟨[',', ' '], [':', ' '], true⟩

/-- The hexadecimal digit of a number below sixteen, in lower case. -/
def hexDigit (n : Nat) : Char :=
  Nat.digitChar n

/-- The escape of a UTF-16 unit. -/
def unitEscape (unit : Nat) : List Char :=
  ['\\', 'u', hexDigit (unit / 4096 % 16), hexDigit (unit / 256 % 16), hexDigit (unit / 16 % 16),
   hexDigit (unit % 16)]

/-- A character as it stands between the quotes of a string. -/
def escapeChar (asciiOnly : Bool) (c : Char) : List Char :=
  if c = '"' then ['\\', '"']
  else if c = '\\' then ['\\', '\\']
  else if c = '\x08' then ['\\', 'b']
  else if c = '\x0c' then ['\\', 'f']
  else if c = '\n' then ['\\', 'n']
  else if c = '\r' then ['\\', 'r']
  else if c = '\t' then ['\\', 't']
  else if c.toNat < 0x20 then unitEscape c.toNat
  else if asciiOnly && 0x7F ≤ c.toNat then
    if c.toNat < 0x10000 then unitEscape c.toNat
    else
      let rest := c.toNat - 0x10000
      unitEscape (0xD800 + rest / 0x400) ++ unitEscape (0xDC00 + rest % 0x400)
  else [c]

/-- A string between quotes. -/
def quote (asciiOnly : Bool) (s : String) : List Char :=
  '"' :: s.toList.flatMap (escapeChar asciiOnly) ++ ['"']

/-- The names of the binary64 numbers that have no digits. -/
def specialNames : Binary64.SpecialNames := ⟨"NaN".toList, "Infinity".toList⟩

mutual

/-- The text of a value. -/
def render (style : Style) : Json → List Char
  | .null => "null".toList
  | .bool true => "true".toList
  | .bool false => "false".toList
  | .int n => Text.ofInt n
  | .float x => x.render specialNames
  | .str s => quote style.asciiOnly s
  | .arr [] => ['[', ']']
  | .arr (item :: items) => '[' :: render style item ++ renderItems style items
  | .obj [] => ['\x7b', '\x7d']
  | .obj ((key, value) :: members) =>
    '\x7b' :: quote style.asciiOnly key ++ style.colon ++ render style value
      ++ renderMembers style members

/-- The rest of an array after its first item. -/
def renderItems (style : Style) : List Json → List Char
  | [] => [']']
  | item :: items => style.comma ++ render style item ++ renderItems style items

/-- The rest of an object after its first member. -/
def renderMembers (style : Style) : Members → List Char
  | [] => ['\x7d']
  | (key, value) :: members =>
    style.comma ++ quote style.asciiOnly key ++ style.colon ++ render style value
      ++ renderMembers style members

end

/-- The JSON text of a value, whatever integers it holds. -/
def toText (style : Style) (value : Json) : String :=
  String.ofList (value.render style)

/-! ## Values that can be written -/

mutual

/-- Whether every integer in a value can be written. -/
def writable : Json → Bool
  | .int n => Text.writable n
  | .arr items => itemsWritable items
  | .obj members => membersWritable members
  | .null | .bool _ | .float _ | .str _ => true

/-- Whether every integer in a list of values can be written. -/
def itemsWritable : List Json → Bool
  | [] => true
  | item :: items => writable item && itemsWritable items

/-- Whether every integer in a list of members can be written. -/
def membersWritable : Members → Bool
  | [] => true
  | (_, value) :: members => writable value && membersWritable members

end

/-- Writes a value as JSON text. -/
def write (style : Style) (value : Json) : Except Fault String :=
  if value.writable then .ok (value.toText style) else .error .badValue

theorem write_of_writable {value : Json} (style : Style) (h : value.writable = true) :
    value.write style = .ok (value.toText style) :=
  if_pos h

theorem write_of_not_writable {value : Json} (style : Style) (h : value.writable = false) :
    value.write style = .error .badValue :=
  if_neg (by simp [h])

end MqttProfile.Json
