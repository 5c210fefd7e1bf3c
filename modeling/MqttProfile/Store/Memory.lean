import MqttProfile.Store.Basic

/-!
# Stores in memory

Records are kept in the order in which their identifiers were first used.  Fresh identifiers and clock
readings come from outside, one after the other, and both stores share them.
-/

namespace MqttProfile

/-- Where fresh identifiers and clock readings come from: the `n`-th of each, from zero. -/
structure Supply where
  /-- The identifiers. -/
  id : Nat → String
  /-- The readings of the clock, in milliseconds. -/
  time : Nat → Int

/-- What the stores hold, and how much of the supply they have used. -/
structure Memory where
  credentials : List (String × CredentialReference)
  profiles : List (String × Profile)
  idsUsed : Nat
  timesUsed : Nat
deriving DecidableEq

namespace Memory

/-- Stores that hold some credentials and nothing else. -/
def ofCredentials (credentials : List (String × CredentialReference)) : Memory :=
  ⟨credentials, [], 0, 0⟩

/-- The entries with one more: an identifier that is there keeps its place. -/
def put {α : Type} (id : String) (entry : α) : List (String × α) → List (String × α)
  | [] => [(id, entry)]
  | (i, e) :: rest => if i = id then (i, entry) :: rest else (i, e) :: put id entry rest

def freshId (supply : Supply) (memory : Memory) : String × Memory :=
  (supply.id memory.idsUsed, { memory with idsUsed := memory.idsUsed + 1 })

def readClock (supply : Supply) (memory : Memory) : Int × Memory :=
  (supply.time memory.timesUsed, { memory with timesUsed := memory.timesUsed + 1 })

/-- Issues credentials under a fresh identifier, which is used up even if their text cannot be written. -/
def issue (supply : Supply) (name clientId username : Json) (memory : Memory) :
    Except Fault CredentialReference × Memory :=
  let (id, memory) := memory.freshId supply
  match Credentials.write clientId username .null with
  | .error fault => (.error fault, memory)
  | .ok text =>
    let reference : CredentialReference := { id, name, credentialsValue := .str text }
    (.ok reference, { memory with credentials := put id reference memory.credentials })

/-- Looks up credentials; an array or object is no identifier at all. -/
def fetch (id : Json) (memory : Memory) : Except Error CredentialReference :=
  match id with
  | .str s => match memory.credentials.lookup s with
    | some reference => .ok reference
    | none => .error (.credentialsNotFound id)
  | .arr _ | .obj _ => .error (.fault .wrongKind)
  | _ => .error (.showing id (.credentialsNotFound id))

/-- The profile with its identifier and its time of creation: what it lacks is taken from the profile
that is stored under its identifier, and else from the supply. -/
def complete (supply : Supply) (profile : Profile) (memory : Memory) : String × Profile × Memory :=
  match profile.id with
  | none =>
    let (id, memory) := memory.freshId supply
    let (time, memory) := memory.readClock supply
    (id, { profile with id := some id, createdTime := .int time }, memory)
  | some id =>
    if profile.createdTime = .null then
      match memory.profiles.lookup id with
      | some stored => (id, { profile with createdTime := stored.createdTime }, memory)
      | none =>
        let (time, memory) := memory.readClock supply
        (id, { profile with createdTime := .int time }, memory)
    else (id, profile, memory)

/-- Saves a profile under its identifier, which it is given if it has none. -/
def save (supply : Supply) (profile : Profile) (memory : Memory) : Profile × Memory :=
  let (id, profile, memory) := memory.complete supply profile
  (profile, { memory with profiles := put id profile memory.profiles })

/-- The store of credentials in memory. -/
def credentialStore (supply : Supply) : CredentialStore Memory where
  issue name clientId username memory :=
    let (reference, memory) := memory.issue supply name clientId username
    (liftFault reference, memory)
  fetch id memory := (memory.fetch id, memory)

/-- The store of profiles in memory. -/
def profileStore (supply : Supply) : ProfileStore Memory where
  save profile memory :=
    let (profile, memory) := memory.save supply profile
    (.ok profile, memory)

end Memory

end MqttProfile
