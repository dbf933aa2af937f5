import ResilientAgent.Service.Gate
import ResilientAgent.Service.Stack
import ResilientAgent.Tools.Registry

/-!
# One step of the agent

A step asks the model once, with the conversation so far and the tools it may call. If the
model ends its turn (or runs out of tokens), the step is done with the model's text. If it asks
for tools, the step runs every call it asked for and hands back the assistant message and one
result message per call, in the order of the calls.

Calls run side by side when there are several and parallel calls are on, at most the
concurrency limit of them at a time; otherwise one after another. A failure goes back to the
model when it refused the arguments or named no known tool; an optional tool's failure becomes
an error result saying the tool is unavailable, and is reported as a degradation; a critical
tool's failure ends the step, and a side-by-side group with it.
-/

namespace ResilientAgent

/-- The input of one step. -/
structure StepRequest where
  /-- The whole conversation so far, the user message included. -/
  messages : List Message
  /-- The request the step belongs to; it scopes idempotency keys. -/
  scope : String
  iteration : Nat
  deriving Inhabited

/-- What one step produced. -/
inductive StepOutcome where
  /-- Tools ran; the model needs another turn. -/
  | next (appended : List Message) (usage : Usage) (invokedTools degraded : List String)
  /-- The model ended its turn. -/
  | done (text : String) (appended : List Message) (usage : Usage)
  deriving Inhabited

/-- The short reason given to the model for a failed tool. -/
def failureReason : Fault → String
  | .agent (.circuitOpen ..) => "circuit open"
  | .agent (.timeout ..) => "timed out"
  | .agent (.rateLimited ..) => "rate limited"
  | .agent (.retryExhausted _ _ source) => failureReason source
  | .tool e => if e.errorClass == .timeout then "timed out" else e.message
  | other => other.display

def Fault.isValidation : Fault → Bool
  | .tool e => e.errorClass == .validation
  | _ => false

/-- What became of one tool call: its result, and the tool if it was unavailable. -/
structure Dispatched where
  result : ToolResult
  degraded : Option String
  deriving Inhabited

/-- Runs one tool call through the router and decides what its failure means. -/
def dispatch (tools : ToolRouter) (call : ToolCall) (scope : String) :
    Action (Except AgentError Dispatched) := do
  let criticality := tools.criticality call.name
  match ← tools.call ⟨call.id, call.name, call.input, scope⟩ with
  | .ok out => return .ok ⟨⟨out.id, out.content, false⟩, none⟩
  | .error e =>
    if e.isValidation then return .ok ⟨⟨call.id, e.display, true⟩, none⟩
    match criticality with
    | .optional =>
      let reason := failureReason e
      Action.log .agent .warn "optional tool unavailable, continuing"
        [("tool", .string call.name), ("reason", .string reason)]
      Action.record (.toolDegraded call.name reason)
      return .ok ⟨⟨call.id, call.name ++ " unavailable: " ++ reason, true⟩, some call.name⟩
    | .critical => return .error (.criticalTool call.name e)

/-- One step of the agent: a model and the tools it may call, with the settings of the model
requests and of the tool calls. -/
structure Step where
  model : ModelService
  tools : ToolRouter
  system : Option String := none
  maxTokens : Option Nat := none
  temperature : Option Float := none
  parallelTools : Bool := true
  toolConcurrency : Option Nat := none

namespace Step

def configured (s : Step) (c : AgentConfig) : Step :=
  { s with system := c.systemPrompt, maxTokens := c.maxTokens, temperature := c.temperature
           parallelTools := c.parallelTools, toolConcurrency := c.toolConcurrency }

/-- Runs the calls side by side, at most `limit` at a time if limited; the first failure
drops the others. -/
def fanOut (s : Step) (calls : List ToolCall) (scope : String) :
    Action (Except AgentError (List Dispatched)) := do
  let gate ← Action.freshTicket
  let name := "tool calls " ++ toString gate
  Proc.allOk (calls.map fun call =>
    match s.toolConcurrency with
    | some limit => Action.through name (Nat.max limit 1) (dispatch s.tools call scope)
    | none => dispatch s.tools call scope)

/-- Runs the calls one after another, stopping at the first failure. -/
def inTurn (s : Step) (scope : String) : List ToolCall → Action (Except AgentError (List Dispatched))
  | [] => pure (.ok [])
  | call :: rest => do
    match ← dispatch s.tools call scope with
    | .error e => return .error e
    | .ok d =>
      match ← s.inTurn scope rest with
      | .ok ds => return .ok (d :: ds)
      | .error e => return .error e

/-- Runs one step. -/
def run (s : Step) (req : StepRequest) : Action (Except AgentError StepOutcome) := do
  let modelRequest : ModelRequest :=
    { system := s.system, messages := req.messages, tools := s.tools.specs
      maxTokens := s.maxTokens, temperature := s.temperature }
  match ← s.model modelRequest with
  | .error e => return .error (AgentError.ofFault e modelDependency)
  | .ok response =>
    let usage := response.usage
    match response.stopReason with
    | .endTurn | .maxTokens =>
      let text := response.content.getD ""
      return .ok (.done text [Message.assistant text] usage)
    | .toolUse =>
      let calls := response.toolCalls
      if calls.isEmpty then
        return .error (.modelBehavior "tool_use stop reason without tool calls")
      Action.record (.loopPhase req.scope (.awaitingTool req.iteration calls.length))
      let dispatched ← if calls.length > 1 && s.parallelTools then s.fanOut calls req.scope
        else s.inTurn req.scope calls
      match dispatched with
      | .error e => return .error e
      | .ok ds =>
        return .ok (.next (response.toMessage :: ds.map (Message.ofToolResult ·.result)) usage
          (calls.map (·.name)) (ds.filterMap (·.degraded)))

end Step

end ResilientAgent
