import MqttProfile.Service.Network

/-!
# Requests and replies in forms

A script writes the replies of a service as objects, and an answer shows the requests that were made.
-/

namespace MqttProfile

/-- The reply that a script writes: a failure of its kind, or an answer with a status and a body. -/
def Reply.ofForm (script : Json) : Reply :=
  let members := script.members?.getD []
  let text (name : String) : String := match Json.lookup name members with
    | some (.str s) => s
    | _ => ""
  if (Json.lookup "fail" members).isSome then
    if text "kind" = "runtime" then .breakdown (text "fail") else .unreachable (text "fail")
  else match Json.lookup "status" members with
    | some (.int status) => .answer status (text "body")
    | _ => .answer 200 (text "body")

/-- A request; the body is left out where there is none. -/
def Request.toForm (request : Request) : Json :=
  .obj
    ([("method", .str request.method.name), ("path", request.path)]
      ++ (request.body.map fun body => ("json", body)).toList)

end MqttProfile
