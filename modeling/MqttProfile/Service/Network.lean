import MqttProfile.Error
import MqttProfile.Json.Encoding

/-!
# Requests to services

Requests and their replies, in a world that holds the replies to come and the requests that were made.
A reply with an error status is a failure; any other one is read as JSON, an empty one as null.
-/

namespace MqttProfile

/-- The method of a request. -/
inductive Method where
  | get
  | post
deriving DecidableEq, Repr

def Method.name : Method → String
  | .get => "GET"
  | .post => "POST"

/-- A request; only a posted one has a body.  A path is a text, but a caller may put any other value
there. -/
structure Request where
  method : Method
  path : Json
  body : Option Json
deriving DecidableEq

/-- What comes of a request. -/
inductive Reply where
  /-- The service answers. -/
  | answer (status : Int) (body : String)
  /-- The service cannot be reached. -/
  | unreachable (reason : String)
  /-- The client itself breaks down. -/
  | breakdown (message : String)
deriving DecidableEq, Repr

/-- The replies that are still to come, and the requests that were made, the oldest first. -/
structure Network where
  replies : List Reply
  requests : List Request
deriving DecidableEq

/-- Whether a request can be sent: the body of a posted one has to be written. -/
def Request.sendable (request : Request) : Bool := request.body.all (·.writable)

namespace Network

/-- The message of the failure when no reply is left. -/
def silence : String := "no more responses"

/-- The body of an answer as JSON, in the encoding that its bytes show. -/
def readBody (body : String) : Except Fault Json :=
  Json.ofBytes body.toUTF8.toList

/-- The body of an answer as a message, or its status where the body is empty. -/
def plainMessage (status : Int) (body : String) : String :=
  if body.isEmpty then "HTTP " ++ Text.decimal status else body

/-- The message of an answer that reports an error: the message in its body if there is one, and else
the body itself. -/
def errorMessage (status : Int) (body : String) : String :=
  match readBody body with
  | .ok (.obj members) =>
    let message := Json.memberOrNull "message" members
    if message.truthy then message.display else plainMessage status body
  | _ => plainMessage status body

/-- What an answer holds. -/
def readAnswer (status : Int) (body : String) : Except Error Json :=
  if 400 ≤ status then .error (.rejected status (errorMessage status body))
  else if body.isEmpty then .ok .null
  else liftFault (readBody body)

/-- What a reply to a request holds. -/
def readReply (request : Request) : Reply → Except Error Json
  | .answer status body => readAnswer status body
  | .unreachable reason =>
    .error (.showing request.path (.unreachable request.method.name request.path.display reason))
  | .breakdown message => .error (.breakdown message)

/-- Makes a request and takes the next reply; one that cannot be sent is not made. -/
def send (request : Request) (network : Network) : Except Error Json × Network :=
  if request.sendable then
    let requests := network.requests ++ [request]
    match network.replies with
    | [] => (.error (.breakdown silence), { network with requests })
    | reply :: replies => (readReply request reply, { replies, requests })
  else (.error (.fault .badValue), network)

def get (path : Json) (network : Network) : Except Error Json × Network :=
  network.send ⟨.get, path, none⟩

def post (path : Json) (body : Json) (network : Network) : Except Error Json × Network :=
  network.send ⟨.post, path, some body⟩

end Network

end MqttProfile
