import MqttProfile.Identifier.Twister
import MqttProfile.Text.Number

/-!
# Generated identifiers

Names for credentials and clients end in characters that are drawn from an alphabet of 62 letters and
digits.  A generator draws them one by one and counts them; it either walks through the alphabet by a
fixed step or takes the six high bits of a Mersenne Twister, again while they are no index.
-/

namespace MqttProfile

/-- Where the drawn characters come from. -/
inductive Randomness where
  /-- The `n`-th draw is at `start + step * n` in the alphabet, counted around. -/
  | stepped (start step : Int)
  /-- The draws are those of a Mersenne Twister. -/
  | twister (state : Identifier.Twister)

/-- A source of characters and the number of characters that were drawn. -/
structure Generator where
  source : Randomness
  drawn : Nat

namespace Generator

def alphabetSize : Nat := 62

/-- The character at a position of the alphabet: small letters, capital letters, digits. -/
def letter (i : Nat) : Char :=
  if i < 26 then Char.ofNat ('a'.toNat + i)
  else if i < 52 then Char.ofNat ('A'.toNat + (i - 26))
  else Char.ofNat ('0'.toNat + (i - 52))

/-- A generator that walks through the alphabet. -/
def ofStep (start step : Int) : Generator := ⟨.stepped start step, 0⟩

/-- A generator that is seeded by an integer. -/
def ofSeed (seed : Int) : Generator := ⟨.twister (.ofSeed seed), 0⟩

/-- How often an output that is no index is thrown away before it is taken around the alphabet; one in
32 outputs is none. -/
def patience : Nat := 1000

/-- The first index among the next outputs. -/
def drawIndex : Nat → Identifier.Twister → Nat × Identifier.Twister
  | 0, state =>
    let (word, state) := state.next
    ((word >>> 26).toNat % alphabetSize, state)
  | tries + 1, state =>
    let (word, state) := state.next
    let index := (word >>> 26).toNat
    if index < alphabetSize then (index, state) else drawIndex tries state

/-- Draws one character. -/
def draw (g : Generator) : Char × Generator :=
  match g.source with
  | .stepped start step =>
    (letter ((start + step * g.drawn) % alphabetSize).toNat, { g with drawn := g.drawn + 1 })
  | .twister state =>
    let (index, state) := drawIndex patience state
    (letter index, ⟨.twister state, g.drawn + 1⟩)

/-- Draws a number of characters. -/
def drawMany (g : Generator) : Nat → List Char × Generator
  | 0 => ([], g)
  | n + 1 =>
    let (c, g) := g.draw
    let (cs, g) := g.drawMany n
    (c :: cs, g)

/-- Draws a number of characters behind a fixed start. -/
def drawAfter (start : String) (length : Nat) (g : Generator) : String × Generator :=
  let (cs, g) := g.drawMany length
  (start ++ String.ofList cs, g)

def clientIdStart : String := "tbmq_"

def usernameStart : String := "tbmq_un_"

def credentialsNameStart : String := "WebSocket Credentials "

def clientId (g : Generator) : String × Generator := g.drawAfter clientIdStart 8

def username (g : Generator) : String × Generator := g.drawAfter usernameStart 8

def credentialsName (g : Generator) : String × Generator := g.drawAfter credentialsNameStart 5

end Generator

/-- The name of the connection of a number in writing. -/
def connectionNameOf (number : String) : String :=
  "WebSocket Connection " ++ number

/-- The name of the connection with a given number. -/
def connectionName (index : Int) : Except Fault String :=
  (Text.write index).map connectionNameOf

end MqttProfile
