import MqttProfile.Profile.Configuration

/-!
# Connection profiles

A profile gives a configuration a name.  Once it is saved it has an identifier, an owner and the time of
its creation.  No password is part of a profile.
-/

namespace MqttProfile

/-- A named configuration, ready to be saved. -/
structure Profile where
  name : Json
  configuration : Configuration
  id : Option String
  userId : Option String
  createdTime : Json
deriving DecidableEq

namespace Profile

/-- An identifier, which is given directly or inside an object. -/
def identifier? : Json → Except Fault (Option String)
  | .null => .ok none
  | .obj members => match Json.memberOrNull "id" members with
    | .null => .ok none
    | value => value.shown.map some
  | value => value.shown.map some

/-- Reads a profile from its stored form. -/
def ofJson (payload : Json) : Except Fault Profile := do
  let name ← (← payload.require "name").shown
  let members ← payload.asObject
  let configuration ←
    Configuration.ofJson ((Json.memberOrNull "configuration" members).orElse (.obj []))
  let id ← identifier? (Json.memberOrNull "id" members)
  let userId ← identifier? (Json.memberOrNull "userId" members)
  return {
    name := .str name
    configuration
    id
    userId
    createdTime := Json.memberOrNull "createdTime" members }

/-- A text, or null. -/
def textOrNull : Option String → Json
  | some s => .str s
  | none => .null

/-- The stored form of a profile; an identifier and a time that it does not have are left out. -/
def toJson (profile : Profile) : Json :=
  .obj <|
    [("name", profile.name), ("userId", textOrNull profile.userId),
     ("configuration", profile.configuration.toJson)]
      ++ (match profile.id with
          | some id => [("id", .str id)]
          | none => [])
      ++ (if profile.createdTime = .null then [] else [("createdTime", profile.createdTime)])

end Profile

end MqttProfile
