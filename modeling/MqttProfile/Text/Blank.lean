/-!
# Blank characters and trimming

Two sets of blanks are in use.  `isSpace` is the Unicode property `White_Space`; `isBlank` adds the
four information separators U+001C to U+001F.  Text that a user enters is trimmed of `isBlank`,
numbers that are read from text allow `isSpace` around them.
-/

namespace MqttProfile.Text

/-- The Unicode property `White_Space`. -/
def isSpace (c : Char) : Bool :=
  let n := c.toNat
  (0x09 ≤ n && n ≤ 0x0D) || n == 0x20 || n == 0x85 || n == 0xA0 || n == 0x1680
    || (0x2000 ≤ n && n ≤ 0x200A) || n == 0x2028 || n == 0x2029 || n == 0x202F
    || n == 0x205F || n == 0x3000

/-- White space and the four information separators. -/
def isBlank (c : Char) : Bool :=
  isSpace c || (0x1C ≤ c.toNat && c.toNat ≤ 0x1F)

/-- The list without the members of a class at either end. -/
def stripBy (p : Char → Bool) (cs : List Char) : List Char :=
  ((cs.dropWhile p).reverse.dropWhile p).reverse

/-- The text without blanks at either end. -/
def trim (s : String) : String :=
  String.ofList (stripBy isBlank s.toList)

/-- A text is blank when trimming leaves nothing. -/
def blank (s : String) : Bool :=
  s.toList.all isBlank

/-- Whether `needle` occurs in the list as a run of consecutive members. -/
def occursIn (needle : List Char) : List Char → Bool
  | [] => needle.isEmpty
  | c :: cs => needle.isPrefixOf (c :: cs) || occursIn needle cs

end MqttProfile.Text
