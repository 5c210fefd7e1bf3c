import MqttProfile.Connectivity
import MqttProfile.Json.Display

/-!
# Known endpoints in forms

A form writes what is known of the endpoints, and any value may stand for a host or a port.  It is either
one host with two ports, or one endpoint for each transport that has one.
-/

namespace MqttProfile.KnownEndpoints

/-- An endpoint of a form, as a host and a port. -/
private def pair (value : Json) : Except Fault (Json × Json) :=
  match value.parts with
  | .ok [host, port] => .ok (host, port)
  | _ => .error .wrongKind

/-- Reads what is known of the endpoints. -/
def ofForm : Json → Except Fault (KnownEndpoints (Json × Json))
  | .arr [host, plain, secure] => .ok fun
    | .plain => some (host, plain)
    | .secure => some (host, secure)
  | .arr _ => .error .wrongKind
  | .obj members => do
    let known ← members.mapM fun (name, value) => do
      return (← Transport.ofJson (.str name), ← pair value)
    return fun transport => known.lookup transport
  | _ => .error .notAnObject

/-- The settings taken over, each endpoint in the form in which a form writes it. -/
def mergeForm (known : KnownEndpoints (Json × Json)) (settings : Option ConnectivitySettings) :
    KnownEndpoints (Json × Json) :=
  known.merge (fun endpoint => (.str endpoint.host, .int endpoint.port)) settings

/-- What is known of each endpoint, in the form that a function gives it. -/
private def each (known : KnownEndpoints (Json × Json)) (write : Transport → Json → Json → Except Fault Json) :
    Except Fault Json := do
  let entries ← Transport.all.mapM fun t => match known t with
    | some (host, port) => do return [(t.name, ← write t host port)]
    | none => return []
  return .obj entries.flatten

/-- The endpoints that are known, and the address of each with the path that is used when none is given. -/
def toForm (known : KnownEndpoints (Json × Json)) : Except Fault Json := do
  let urls ← known.each fun t host port => do
    return .str (t.address (← host.shown) (← port.shown) Transport.defaultPath)
  return .obj [("merged", ← known.each fun _ host port => return .arr [host, port]), ("urls", urls)]

end MqttProfile.KnownEndpoints
