/-!
# The generator MT19937

The 32-bit Mersenne Twister with its seeding by an array of words: 624 words of state, from which 624
outputs are tempered before the state is twisted again.
-/

namespace MqttProfile.Identifier

/-- The state of a Mersenne Twister and the position of the next output in it. -/
structure Twister where
  words : Array UInt32
  position : Nat

namespace Twister

/-- The number of words of state. -/
def size : Nat := 624

/-- The distance of the word that each word is twisted with. -/
def shift : Nat := 397

/-- The word at a position, counted around the state. -/
private def wordAt (words : Array UInt32) (i : Nat) : UInt32 :=
  words.getD (i % size) 0

/-- The state that is seeded by one word. -/
private def seedWord (seed : UInt32) : Array UInt32 :=
  (List.range (size - 1)).foldl
    (fun words i =>
      let last := wordAt words i
      words.push ((1812433253 : UInt32) * (last ^^^ (last >>> 30)) + (i + 1).toUInt32))
    #[seed]

/-- A state that is being seeded, with the position to change next. -/
private structure Seeding where
  words : Array UInt32
  position : Nat

/-- Moves to the next position; past the end the last word is carried over to the front. -/
private def Seeding.advance (words : Array UInt32) (position : Nat) : Seeding :=
  if position + 1 < size then ⟨words, position + 1⟩
  else ⟨words.set! 0 (wordAt words (size - 1)), 1⟩

/-- Mixes one word of the key into the state. -/
private def Seeding.mixKey (s : Seeding) (key : UInt32) : Seeding :=
  let last := wordAt s.words (s.position - 1)
  let mixed := (wordAt s.words s.position ^^^ ((last ^^^ (last >>> 30)) * 1664525)) + key
  .advance (s.words.set! s.position mixed) s.position

/-- Mixes a position into the state. -/
private def Seeding.mixPosition (s : Seeding) : Seeding :=
  let last := wordAt s.words (s.position - 1)
  let mixed :=
    (wordAt s.words s.position ^^^ ((last ^^^ (last >>> 30)) * 1566083941)) - s.position.toUInt32
  .advance (s.words.set! s.position mixed) s.position

/-- The words of a key that are mixed in, each with its position added: the key over and over, as many
words as the longer of key and state has. -/
private def keySchedule (key : List UInt32) : List UInt32 :=
  (List.range (max size key.length)).map fun i =>
    let j := i % key.length
    key.getD j 0 + j.toUInt32

/-- The generator that is seeded by the words of a key. -/
def ofKey (key : List UInt32) : Twister :=
  let mixed := (keySchedule key).foldl Seeding.mixKey ⟨seedWord 19650218, 1⟩
  let mixed := (List.range (size - 1)).foldl (fun s _ => s.mixPosition) mixed
  ⟨mixed.words.set! 0 0x80000000, size⟩

/-- The 32-bit words of a natural number, the lowest first; zero has one word. -/
def keyOfNat (n : Nat) : List UInt32 :=
  (List.range (n.log2 / 32 + 1)).map fun i => (n >>> (32 * i)).toUInt32

/-- The generator that is seeded by the magnitude of an integer. -/
def ofSeed (seed : Int) : Twister :=
  ofKey (keyOfNat seed.natAbs)

/-- The word at a position after twisting. -/
private def twistWord (words : Array UInt32) (i : Nat) : UInt32 :=
  let joined := (wordAt words i &&& 0x80000000) ||| (wordAt words (i + 1) &&& 0x7fffffff)
  let twisted := wordAt words (i + shift) ^^^ (joined >>> 1)
  if joined &&& 1 = 1 then twisted ^^^ 0x9908b0df else twisted

/-- The state after twisting every word in turn. -/
private def twist (words : Array UInt32) : Array UInt32 :=
  (List.range size).foldl (fun words i => words.set! i (twistWord words i)) words

/-- An output from a word of the state. -/
private def temper (y : UInt32) : UInt32 :=
  let y := y ^^^ (y >>> 11)
  let y := y ^^^ ((y <<< 7) &&& 0x9d2c5680)
  let y := y ^^^ ((y <<< 15) &&& 0xefc60000)
  y ^^^ (y >>> 18)

/-- The next output. -/
def next (t : Twister) : UInt32 × Twister :=
  let t := if t.position < size then t else ⟨twist t.words, 0⟩
  (temper (wordAt t.words t.position), { t with position := t.position + 1 })

end Twister

end MqttProfile.Identifier
