import ResilientAgent.Provider.Scripted
import ResilientAgent.Scenario.Tools

/-!
# Scripted models in scenarios

A scenario's model answers from a script of replies, one per request, and then from a
fallback: one reply repeated forever, an echo of the conversation, or a model that calls one
tool and then echoes its result. Every request it receives is logged, and a scenario reports
each one by a short summary: the system prompt, the roles of the conversation, its last
message, the names of the tools offered and the sampling settings.
-/

namespace ResilientAgent

namespace Scenario

def scriptedUsage? (j : Json) : Option Usage := j.readOr "usage" usagePair? {}

def fullResponse? (j : Json) : Option ModelResponse :=
  match j with
  | .object fields =>
    let fields := if j.has "tool_calls" then fields else fields ++ [("tool_calls", .array [])]
    typed ModelResponse.decode (.object fields)
  | _ => none

/-- One scripted reply from its JSON form: a final answer, a request for tool calls, a
failure of either kind or a full response. -/
def scriptedReply? (j : Json) : Option ScriptedReply :=
  if j.has "end_turn" then do
    let text ← j.read "end_turn" Json.str?
    return .respond { ModelResponse.endTurn text with usage := ← scriptedUsage? j }
  else if j.has "tool_use" then do
    let calls ← j.read "tool_use" (Json.readEach (typed ToolCall.decode))
    return .respond { ModelResponse.toolUse calls with usage := ← scriptedUsage? j }
  else if j.has "fail_transient" then (j.read "fail_transient" Json.str?).map (.fail .transient)
  else if j.has "fail_permanent" then (j.read "fail_permanent" Json.str?).map (.fail .permanent)
  else (fullResponse? j).map .respond

def echoAnswer (req : ModelRequest) : ModelResponse :=
  ModelResponse.endTurn (toString req.messages.length ++ " messages; last: " ++
    ((req.messages.getLast?.map (·.content)).getD ""))

def toolThenEcho (tool : String) (input : Json) (req : ModelRequest) : ModelResponse :=
  match req.messages.getLast? with
  | some m =>
    if m.role == .tool then ModelResponse.endTurn ("result: " ++ m.content)
    else ModelResponse.toolUse [⟨"call-" ++ toString req.messages.length, tool, input⟩]
  | none => ModelResponse.toolUse [⟨"call-0", tool, input⟩]

def fallback? (j : Json) : Option (ModelRequest → Except Fault ModelResponse) :=
  if j.has "echo" then some fun req => .ok (echoAnswer req)
  else do
    let spec ← j.get? "tool_then_echo"
    let tool ← spec.read "tool" Json.str?
    let input := spec.memberOr "input" .null
    return fun req => .ok (toolThenEcho tool input req)

def scriptedModel? (j : Json) : Option (List ScriptedReply × ScriptedProvider) := do
  let script ← j.readOr "script" (Json.readEach scriptedReply?) []
  let repeated ← j.readOpt "repeat" scriptedReply?
  let fallback ← j.readOpt "fallback" fallback?
  let latency ← j.readOpt "latency" duration?
  let fallback := match repeated with
    | some r => some fun _ => r.answer
    | none => fallback
  return (script, { fallback, latency })

def requestSummary (r : ModelRequest) : Json :=
  .object [("system", Json.opt Json.string r.system),
    ("roles", .array (r.messages.map fun m => .string m.role.name)),
    ("last", Json.opt Message.toJson r.messages.getLast?),
    ("tools", .array (r.tools.map fun t => .string t.name)),
    ("max_tokens", Json.opt Json.nat r.maxTokens),
    ("temperature", Json.opt binary32Json r.temperature)]

def requestsFrom (w : World) (start : Nat) : Json :=
  .array ((w.requests.toList.drop start).map requestSummary)

end Scenario

end ResilientAgent
