import MqttProfile.Json.Reader

/-!
# JSON as bytes

JSON may arrive as bytes in UTF-8, or in UTF-16 or UTF-32 with either byte order.  A JSON text starts with
an ASCII character, so the zeros among the first four bytes tell the encoding.  A byte order mark of
UTF-8 in front is skipped.  Half a surrogate pair that stands alone is let through as U+FFFD.
-/

namespace MqttProfile.Json

/-- The order of the bytes in a unit. -/
inductive ByteOrder where
  /-- The highest byte comes first. -/
  | big
  /-- The lowest byte comes first. -/
  | little
deriving DecidableEq, Repr

/-- The number that the bytes of a unit write. -/
def ByteOrder.value (order : ByteOrder) (bytes : List UInt8) : Nat :=
  let fromLowest := match order with
    | .big => bytes.reverse
    | .little => bytes
  fromLowest.foldr (fun byte n => byte.toNat + 256 * n) 0

/-- An encoding of text as bytes. -/
inductive Encoding where
  | utf8
  | utf16 (order : ByteOrder)
  | utf32 (order : ByteOrder)
deriving DecidableEq, Repr

namespace Encoding

/-- The encoding of a text that starts with an ASCII character other than NUL; one of three bytes or of
a single one is taken for UTF-8. -/
def detect : List UInt8 → Encoding
  | a :: b :: c :: d :: _ =>
    if a = 0 then (if b = 0 then .utf32 .big else .utf16 .big)
    else if b = 0 then (if c = 0 ∧ d = 0 then .utf32 .little else .utf16 .little)
    else .utf8
  | [a, b] => if a = 0 then .utf16 .big else if b = 0 then .utf16 .little else .utf8
  | _ => .utf8

/-- The UTF-16 units that bytes write; none when a byte is left over. -/
def units16? (order : ByteOrder) : List UInt8 → Option (List Piece)
  | a :: b :: rest => (units16? order rest).map (.unit (order.value [a, b]) :: ·)
  | [_] => none
  | [] => some []

/-- The characters that bytes write in UTF-32; none when bytes are left over or a number is beyond the
last code point. -/
def chars32? (order : ByteOrder) : List UInt8 → Option (List Char)
  | a :: b :: c :: d :: rest =>
    let n := order.value [a, b, c, d]
    if n < 0x110000 then (chars32? order rest).map (charOfUnit n :: ·) else none
  | [] => some []
  | _ => none

/-- The characters that bytes write. -/
def decode? : Encoding → List UInt8 → Option (List Char)
  | .utf8, bytes => (String.fromUTF8? ⟨bytes.toArray⟩).map String.toList
  | .utf16 order, bytes => (units16? order bytes).map joinPieces
  | .utf32 order, bytes => chars32? order bytes

end Encoding

/-- The characters of a text in bytes, in the encoding that they show, without a byte order mark. -/
def charsOfBytes? : List UInt8 → Option (List Char)
  | 0xEF :: 0xBB :: 0xBF :: rest => Encoding.utf8.decode? rest
  | bytes => (Encoding.detect bytes).decode? bytes

/-- Reads JSON that arrives as bytes. -/
def ofBytes (bytes : List UInt8) : Except Fault Json :=
  match charsOfBytes? bytes with
  | none => .error .malformedText
  | some cs => read cs

end MqttProfile.Json
