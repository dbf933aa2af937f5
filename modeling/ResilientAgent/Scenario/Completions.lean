import ResilientAgent.Provider.ChatCompletions
import ResilientAgent.Scenario.Failure

/-!
# The chat-completions client in scenarios

A scenario points a client at an endpoint on the loopback interface that answers each request
with the next of its canned replies and, once they run out, with a server error; or at a port
where nothing listens, so that no request is ever sent. It asks the model the same request a
given number of times and reports the model asked for, each outcome, and the path and body of
every request the endpoint received.

A client made for the public API is never asked anything here: it could only be asked over the
network.
-/

namespace ResilientAgent

namespace Scenario

/-- An endpoint that answers with canned replies, and what it was sent. -/
structure CannedEndpoint where
  replies : List HttpReply
  /-- The path and body of each request received, oldest first. -/
  sent : List (String × Json) := []

def exhaustedReply : HttpReply :=
  ⟨500, (Json.object [("error", .object [("message", .string "no canned reply"),
    ("type", .string "server_error")])]).render⟩

def urlPath (url : String) : String :=
  match url.splitOn "://" with
  | [_, rest] => String.ofList (rest.toList.dropWhile (· != '/'))
  | _ => url

def CannedEndpoint.post (url : String) (body : Json) : StateM CannedEndpoint (Option HttpReply) := do
  let e ← get
  let (reply, rest) := match e.replies with
    | r :: rest => (r, rest)
    | [] => (exhaustedReply, [])
  set { e with replies := rest, sent := e.sent ++ [(urlPath url, body)] }
  return some reply

def loopbackBase : String := "http://127.0.0.1:8080/v1"

def closedBase : String := "http://127.0.0.1:1/v1"

def httpReply? (j : Json) : Option HttpReply := do
  let status ← j.readOr "status" Json.u64? 200
  let body ← match j.get? "body" with
    | some (.string s) => some s
    | some v => some v.render
    | none => none
  return ⟨status, body⟩

def modelRequest? (j : Json) : Option ModelRequest := do
  return { system := ← j.readOpt "system" Json.str?
           messages := ← j.readOr "messages" (Json.readEach (typed Message.decode)) []
           tools := ← j.readOr "tools" (Json.readEach (typed ToolSpec.decode)) []
           maxTokens := ← j.readOpt "max_tokens" Json.u32?
           temperature := ← j.readOpt "temperature" (typed Node.f32) }

def outcomeJson : Except AgentError ModelResponse → Json
  | .ok r => okJson r.toJson
  | .error e => errJson (agentErrorJson e)

def chatClientCalls (request : Json) : Option Json := do
  let model ← request.readOr "model" Json.str? "gpt-4o-mini"
  let calls ← request.readOr "calls" Json.u64? 1
  let fromConfig ← match ← request.readOr "ctor" Json.str? "from_config" with
    | "from_config" => some true
    | "new" => some false
    | _ => none
  if !fromConfig && calls > 0 then none
  let unreachable ← request.readOr "unreachable" Json.bool? false
  let replies ← request.readOr "replies" (Json.readEach httpReply?) []
  let req ← modelRequest? request
  let client : ChatClient :=
    ⟨model, if !fromConfig then defaultApiBase else if unreachable then closedBase else loopbackBase⟩
  let post (url : String) (body : Json) : StateM CannedEndpoint (Option HttpReply) :=
    if unreachable then pure none else CannedEndpoint.post url body
  let (outcomes, endpoint) := ((List.range calls).mapM fun _ => client.complete post req).run ⟨replies, []⟩
  return .object [("model", .string model), ("results", .array (outcomes.map outcomeJson)),
    ("sent", .array (endpoint.sent.map fun (path, body) =>
      .object [("path", .string path), ("body", body)]))]

end Scenario

end ResilientAgent
