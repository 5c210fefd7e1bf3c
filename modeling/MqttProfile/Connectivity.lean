import MqttProfile.Intake
import MqttProfile.Transport

/-!
# Connectivity settings

What a server advertises for each transport, and how it replaces the endpoints that are known so far.
-/

namespace MqttProfile

/-- What is advertised for one transport. -/
structure Advertised where
  enabled : Bool
  host : String
  port : Option Int
deriving DecidableEq, Repr

/-- What is advertised for each transport. -/
structure ConnectivitySettings where
  plain : Advertised
  secure : Advertised
deriving DecidableEq, Repr

namespace Advertised

def nothing : Advertised := ⟨false, "", none⟩

/-- Reads what is advertised for one transport. -/
def ofJson : Json → Intake Advertised :=
  Intake.document fun members =>
    let start : Intake _ := .ok Advertised.mk
    start
      |>.also (Intake.field members ["enabled"] false Intake.bool)
      |>.also (Intake.field members ["host"] "" Intake.text)
      |>.also (Intake.field members ["port"] none (Intake.nullable Intake.int))

def toJson (info : Advertised) : Json :=
  .obj
    [("enabled", .bool info.enabled), ("host", .str info.host),
     ("port", (info.port.map Json.int).getD .null)]

/-- The endpoint that is advertised, if the transport is enabled and both parts are there. -/
def endpoint? (info : Advertised) : Option Endpoint :=
  match info.port with
  | some port => if info.enabled && !info.host.isEmpty then some ⟨info.host, port⟩ else none
  | none => none

end Advertised

namespace ConnectivitySettings

/-- Reads settings; each transport is known under its name and under its description. -/
def ofJson : Json → Intake ConnectivitySettings :=
  Intake.document fun members =>
    let start : Intake _ := .ok ConnectivitySettings.mk
    start
      |>.also (Intake.field members ["ws", "plain"] .nothing Advertised.ofJson)
      |>.also (Intake.field members ["wss", "secure"] .nothing Advertised.ofJson)

def toJson (settings : ConnectivitySettings) : Json :=
  .obj [("ws", settings.plain.toJson), ("wss", settings.secure.toJson)]

/-- The endpoint that is advertised for a transport. -/
def endpoint? (settings : ConnectivitySettings) : Transport → Option Endpoint
  | .plain => settings.plain.endpoint?
  | .secure => settings.secure.endpoint?

end ConnectivitySettings

/-- The endpoints with every endpoint that the settings advertise in its place. -/
def Endpoints.merge (endpoints : Endpoints) : Option ConnectivitySettings → Endpoints
  | none => endpoints
  | some settings =>
    { plain := (settings.endpoint? .plain).getD endpoints.plain
      secure := (settings.endpoint? .secure).getD endpoints.secure }

/-- What is known of the endpoints, in whatever form: a transport may have none. -/
abbrev KnownEndpoints (α : Type) := Transport → Option α

namespace KnownEndpoints

/-- All endpoints are known. -/
def ofEndpoints (endpoints : Endpoints) : KnownEndpoints Endpoint := some ∘ endpoints.get

/-- What is known once settings are taken over; an advertised endpoint is written by `form`. -/
def merge {α : Type} (form : Endpoint → α) (known : KnownEndpoints α)
    (settings : Option ConnectivitySettings) : KnownEndpoints α :=
  fun transport => ((settings.bind (·.endpoint? transport)).map form).or (known transport)

/-- Where all endpoints are known, they are all known after a merge, and merged alike. -/
theorem merge_ofEndpoints (endpoints : Endpoints) (settings : Option ConnectivitySettings) :
    merge id (ofEndpoints endpoints) settings = ofEndpoints (endpoints.merge settings) := by
  funext transport
  cases settings with
  | none => rfl
  | some settings =>
    cases transport with
    | plain =>
      cases h : settings.endpoint? .plain <;>
        simp [merge, ofEndpoints, Endpoints.merge, Endpoints.get, h]
    | secure =>
      cases h : settings.endpoint? .secure <;>
        simp [merge, ofEndpoints, Endpoints.merge, Endpoints.get, h]

end KnownEndpoints

end MqttProfile
