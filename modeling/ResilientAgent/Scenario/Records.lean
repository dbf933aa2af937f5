import ResilientAgent.Conversation.State
import ResilientAgent.Jobs.Job
import ResilientAgent.Scenario.Failure

/-!
# Records in scenarios

Scenarios that read one of the runtime's data shapes, apply a pure operation to it and report
the result in the shape's JSON form: messages and model responses, token usage, history
trimming and expiry, priorities, job statuses and the scripted clock.
-/

namespace ResilientAgent

namespace Scenario

def messageRoundTrip (request : Json) : Option Json := do
  match request.get? "message", request.get? "tool_result" with
  | some m, _ => return .object [("message", (← typed Message.decode m).toJson)]
  | none, some r => return .object [("message", (Message.ofToolResult (← typed ToolResult.decode r)).toJson)]
  | none, none => none

def modelResponse (request : Json) : Option Json := do
  let r ← request.read "response" (typed ModelResponse.decode)
  return .object [("response", r.toJson), ("message", r.toMessage.toJson)]

def usagePair? (j : Json) : Option Usage :=
  match j with
  | .array [i, o] => do return ⟨← i.u64?, ← o.u64?⟩
  | _ => none

def usageSum (request : Json) : Option Json := do
  let usages ← request.read "usages" (Json.readEach usagePair?)
  let sum := usages.foldl Usage.add {}
  return .object [("usage", sum.toJson), ("total", Json.nat sum.total)]

def responseReport (r : ModelResponse) : Json :=
  .object [("response", r.toJson), ("message", r.toMessage.toJson), ("total", Json.nat r.usage.total)]

def itemOf (request : Json) : Option Json := do
  let ctor ← request.read "ctor" Json.str?
  let content ← request.textOr "content"
  let calls ← request.readOr "tool_calls" (typed (Node.list ToolCall.decode)) []
  let usage ← request.readOr "usage" usagePair? {}
  let value ← match ctor with
    | "user" => some (Message.user content).toJson
    | "assistant" => some (Message.assistant content).toJson
    | "assistant_with_tool_calls" => some (Message.assistantWithToolCalls content calls).toJson
    | "tool_call" =>
      let name ← request.textOr "name"
      some (.object [("id_is_call_hex32", .bool true), ("name", .string name),
        ("input", request.memberOr "input" .null)])
    | "end_turn" => some (responseReport { ModelResponse.endTurn content with usage })
    | "tool_use" => some (responseReport { ModelResponse.toolUse calls with usage })
    | "model_request" => some ({} : ModelRequest).toJson
    | _ => none
  return .object [("value", value)]

def trimHistory (request : Json) : Option Json := do
  let messages ← request.read "messages" (typed (Node.list Message.decode))
  let max ← request.read "max" Json.u64?
  return .object [("messages", .array ((ConversationState.trimMessages messages max).map Message.toJson))]

def conversationExpired (request : Json) : Option Json := do
  let updatedAt ← request.read "updated_at" instant?
  let ttl ← request.read "ttl" duration?
  let now ← request.read "now" instant?
  return .object [("expired", .bool ((ConversationState.empty "" updatedAt).isExpired ttl now))]

def priorityResult (r : Except AgentError Priority) : Json :=
  match r with
  | .ok p => okJson (Json.nat p.level)
  | .error e => errJson (agentErrorJson e)

def priorityOf (request : Json) : Option Json := do
  let value ← request.get? "value"
  let byte := value.u8?
  let built := byte.map fun b => priorityResult (Priority.new b)
  let read := match value.decode Priority.decode with
    | .ok p => okJson (Json.nat p.level)
    | .error e => errJson (.string e.message)
  let convert ← request.readOr "convert" Json.bool? false
  return Json.obj ([("new", Json.opt id built), ("serde", read), ("default", Json.nat Priority.default.level),
    ("all_descending", .array (Priority.allDescending.map fun p => Json.nat p.level))] ++
    (if convert then [("convert", Json.opt id built)] else []))

def jobStatusOf (request : Json) : Option Json := do
  let text ← request.read "text" Json.str?
  return match JobStatus.ofName text with
    | .ok s => okJson (.object [("as_str", .string s.name), ("display", .string s.name),
        ("terminal", .bool s.isTerminal), ("serde", .string s.name)])
    | .error e => errJson (agentErrorJson e)

def clockStep (now : Instant) (step : Json) : Option Instant :=
  match step.get? "set", step.get? "advance" with
  | some t, _ => instant? t
  | none, some d => (duration? d).map now.add
  | none, none => none

/-- A scripted clock: it is first set to an instant, then each step moves it; each step
reports where the clock stands. -/
def manualClock (request : Json) : Option Json := do
  let steps ← request.read "steps" Json.array?
  match steps with
  | first :: _ =>
    if !first.has "set" then none
    let (_, seen) ← steps.foldlM (fun (now, seen) step => do
      let next ← clockStep now step
      return (next, seen ++ [instantJson next])) (Instant.scriptEpoch, [])
    return .object [("now", .array seen)]
  | [] => none

end Scenario

end ResilientAgent
