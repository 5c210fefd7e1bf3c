import MqttProfile.Json.Basic
import MqttProfile.Text.Blank
import MqttProfile.Text.Number

/-!
# Transports, endpoints and addresses

A profile connects over a plain or a secured WebSocket.  Each transport has an endpoint, from which the
address is derived, unless its port has too many digits to be written; in the other direction an address
that holds the secured scheme anywhere counts as secured.
-/

namespace MqttProfile

/-- How a connection is transported. -/
inductive Transport where
  | plain
  | secure
deriving DecidableEq, Repr

/-- A host and a port. -/
structure Endpoint where
  host : String
  port : Int
deriving DecidableEq, Repr

/-- An endpoint for each transport. -/
structure Endpoints where
  plain : Endpoint
  secure : Endpoint
deriving DecidableEq, Repr

def Endpoints.get (endpoints : Endpoints) : Transport → Endpoint
  | .plain => endpoints.plain
  | .secure => endpoints.secure

namespace Transport

def all : List Transport := [.plain, .secure]

def name : Transport → String
  | .plain => "ws"
  | .secure => "wss"

def ofName? (s : String) : Option Transport := all.find? (·.name == s)

/-- The transport that a value names. -/
def ofJson : Json → Except Fault Transport
  | .str s => match ofName? s with
    | some transport => .ok transport
    | none => .error .badValue
  | _ => .error .badValue

def scheme : Transport → String
  | .plain => "ws://"
  | .secure => "wss://"

/-- The path of an address when none is given. -/
def defaultPath : String := "/mqtt"

/-- The address that a host, a port and a path make, each in writing. -/
def address (transport : Transport) (host port path : String) : String :=
  transport.scheme ++ host ++ ":" ++ port ++ path

/-- The address of an endpoint, however many digits its port has. -/
def url (transport : Transport) (endpoint : Endpoint) (path : String) : String :=
  transport.address endpoint.host (Text.decimal endpoint.port) path

/-- Derives the address of an endpoint, whose port has to be written for it. -/
def derive (transport : Transport) (endpoint : Endpoint) (path : String) : Except Fault String :=
  (Text.write endpoint.port).map fun port => transport.address endpoint.host port path

theorem derive_of_writable (transport : Transport) {endpoint : Endpoint} (path : String)
    (h : Text.writable endpoint.port = true) :
    transport.derive endpoint path = .ok (transport.url endpoint path) := by
  rw [derive, Text.write_of_writable h]
  rfl

theorem derive_of_not_writable (transport : Transport) {endpoint : Endpoint} (path : String)
    (h : Text.writable endpoint.port = false) : transport.derive endpoint path = .error .badValue := by
  rw [derive, Text.write_of_not_writable h]
  rfl

/-- The transport of an address that is a text. -/
def ofText (url : String) : Transport :=
  if Text.occursIn secure.scheme.toList url.toList then .secure else .plain

/-- The transport of an address of any kind: in an array or object the secured scheme itself has to be
an item or a name. -/
def ofUrl (url : Json) : Except Fault Transport :=
  let choose (found : Bool) : Except Fault Transport := .ok (if found then .secure else .plain)
  if url.truthy then
    match url with
    | .str s => .ok (ofText s)
    | .arr items => choose (items.contains (.str secure.scheme))
    | .obj members => choose (members.any (·.1 == secure.scheme))
    | _ => .error .wrongKind
  else .ok .plain

/-- A browser refuses a plain connection from a page that was itself secured. -/
def blockedOn (transport : Transport) (pageIsSecure : Bool) : Bool :=
  transport != .secure && pageIsSecure

end Transport

end MqttProfile
