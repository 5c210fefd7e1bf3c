import MqttProfile.Json.Reader

/-!
# Keys and strings of TOML

Strings are basic, with escapes, or literal, without; either kind may run over several lines.  A key is a
path of names between points, each bare or a string of one line.

Each function takes the text as a list of characters and answers what it read with the rest of the text.
Lines end in a line feed alone.
-/

namespace MqttProfile.Toml

/-- The blanks inside a line. -/
def isGap (c : Char) : Bool := c == ' ' || c == '\t'

/-- The text after the blanks at its front. -/
def skipGaps (cs : List Char) : List Char := cs.dropWhile isGap

/-- Whether a character may not stand in a line as it is. -/
def isForbidden (c : Char) : Bool := (c.toNat < 0x20 || c.toNat == 0x7F) && c != '\t'

/-- Puts a character in front of those that were read. -/
def consChar (c : Char) : List Char × List Char → List Char × List Char
  | (body, rest) => (c :: body, rest)

/-! ## Literal strings -/

/-- Reads a literal string of one line up to and including its closing quote. -/
def readLiteral : List Char → Option (List Char × List Char)
  | [] => none
  | '\'' :: rest => some ([], rest)
  | c :: rest => if isForbidden c then none else (readLiteral rest).map (consChar c)

/-- Reads a literal string of several lines up to and including the first three quotes. -/
def readLiteralLines : List Char → Option (List Char × List Char)
  | [] => none
  | '\'' :: '\'' :: '\'' :: rest => some ([], rest)
  | c :: rest =>
    if isForbidden c && c != '\n' then none else (readLiteralLines rest).map (consChar c)

/-! ## Basic strings -/

/-- The character of a code point, if it is one. -/
def charOfCode? (n : Nat) : Option Char :=
  if n.isValidChar then some (Char.ofNat n) else none

/-- The character that four hexadecimal digits write. -/
def charOfHex4? (a b c d : Char) : Option Char :=
  (Json.unitOfHex? a b c d).bind charOfCode?

/-- The character that eight hexadecimal digits write, given in two halves. -/
def charOfHex8? (high low : Option Nat) : Option Char :=
  high.bind fun high => low.bind fun low => charOfCode? (0x10000 * high + low)

/-- The character that follows a backslash in an escape of two characters. -/
def shortEscape? (c : Char) : Option Char :=
  if c = '/' then none else Json.shortEscape? c

/-- Reads a basic string of one line up to and including its closing quote. -/
def readBasic : List Char → Option (List Char × List Char)
  | [] => none
  | '"' :: rest => some ([], rest)
  | '\\' :: 'u' :: a :: b :: c :: d :: rest =>
    (charOfHex4? a b c d).bind fun c => (readBasic rest).map (consChar c)
  | '\\' :: 'U' :: a :: b :: c :: d :: e :: f :: g :: h :: rest =>
    (charOfHex8? (Json.unitOfHex? a b c d) (Json.unitOfHex? e f g h)).bind fun c =>
      (readBasic rest).map (consChar c)
  | '\\' :: c :: rest => (shortEscape? c).bind fun c => (readBasic rest).map (consChar c)
  | c :: rest => if isForbidden c then none else (readBasic rest).map (consChar c)
termination_by structural cs => cs

/-- Where the reader of a basic string of several lines stands with respect to a backslash that joins
lines. -/
inductive Joining where
  /-- No lines are being joined. -/
  | none
  /-- Behind the backslash, with blanks still before the end of the line. -/
  | lineEnd
  /-- Behind the end of the line: blanks and ends of lines are dropped. -/
  | nextText
deriving DecidableEq, Repr

/-- Reads a basic string of several lines up to and including the first three quotes. -/
def readBasicLines (joining : Joining) : List Char → Option (List Char × List Char)
  | [] => none
  | c :: rest =>
    if joining = .lineEnd then
      if isGap c then readBasicLines .lineEnd rest
      else if c = '\n' then readBasicLines .nextText rest
      else none
    else if joining = .nextText ∧ (isGap c ∨ c = '\n') then readBasicLines .nextText rest
    else if c = '"' then
      match rest with
      | '"' :: '"' :: rest => some ([], rest)
      | _ => (readBasicLines .none rest).map (consChar c)
    else if c = '\\' then
      match rest with
      | 'u' :: a :: b :: c :: d :: rest =>
        (charOfHex4? a b c d).bind fun c => (readBasicLines .none rest).map (consChar c)
      | 'U' :: a :: b :: c :: d :: e :: f :: g :: h :: rest =>
        (charOfHex8? (Json.unitOfHex? a b c d) (Json.unitOfHex? e f g h)).bind fun c =>
          (readBasicLines .none rest).map (consChar c)
      | c :: rest =>
        if c = '\n' then readBasicLines .nextText rest
        else if isGap c then readBasicLines .lineEnd rest
        else (shortEscape? c).bind fun c => (readBasicLines .none rest).map (consChar c)
      | [] => Option.none
    else if isForbidden c && c != '\n' then Option.none
    else (readBasicLines .none rest).map (consChar c)
termination_by structural cs => cs

/-! ## Strings of either kind -/

/-- Up to two more quotes behind the three that close a string are still part of it. -/
def takeQuotes (mark : Char) (body : List Char) : List Char → List Char × List Char
  | c :: d :: rest =>
    if c = mark then
      if d = mark then (body ++ [mark, mark], rest) else (body ++ [mark], d :: rest)
    else (body, c :: d :: rest)
  | [c] => if c = mark then (body ++ [mark], []) else (body, [c])
  | [] => (body, [])

/-- The text without the end of the line that may follow the opening quotes. -/
def dropLineEnd : List Char → List Char
  | '\n' :: rest => rest
  | rest => rest

/-- Reads a string of either kind that starts with its opening quotes. -/
def readString : List Char → Option (List Char × List Char)
  | '"' :: '"' :: '"' :: rest =>
    (readBasicLines .none (dropLineEnd rest)).map fun (body, rest) => takeQuotes '"' body rest
  | '"' :: rest => readBasic rest
  | '\'' :: '\'' :: '\'' :: rest =>
    (readLiteralLines (dropLineEnd rest)).map fun (body, rest) => takeQuotes '\'' body rest
  | '\'' :: rest => readLiteral rest
  | _ => none

/-! ## Keys -/

/-- The characters of bare names. -/
def isBare (c : Char) : Bool := c.isAlphanum || c == '-' || c == '_'

/-- Reads a name of a key: a bare one or a string of one line. -/
def readName : List Char → Option (String × List Char)
  | '"' :: rest => (readBasic rest).map fun (body, rest) => (String.ofList body, rest)
  | '\'' :: rest => (readLiteral rest).map fun (body, rest) => (String.ofList body, rest)
  | cs => match cs.span isBare with
    | ([], _) => none
    | (body, rest) => some (String.ofList body, rest)

/-- Reads the names of a key, with blanks around its points, and the blanks behind it. -/
def readNames : Nat → List Char → Option (List String × List Char)
  | 0, _ => none
  | fuel + 1, cs =>
    (readName cs).bind fun (name, rest) =>
      match skipGaps rest with
      | '.' :: rest =>
        (readNames fuel (skipGaps rest)).map fun (names, rest) => (name :: names, rest)
      | rest => some ([name], rest)

/-- Reads a key.  Each name but the last is followed by a point, so there are no more names than
characters. -/
def readKey (cs : List Char) : Option (List String × List Char) :=
  readNames cs.length cs

end MqttProfile.Toml
