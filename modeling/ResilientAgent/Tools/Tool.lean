import ResilientAgent.Service.World
import ResilientAgent.Json.Print

/-!
# Tools

A tool is a named service the model may call: it takes an invocation (the call's id, the tool's
name, the JSON arguments and the request it belongs to) and answers with text for the model.
Its definition also carries what is shown to the model (a description and a schema of its
arguments) and the policy the runtime applies to it: whether its failure ends the run
(critical) or only degrades the answer (optional), whether it has side effects that must not
happen twice, and its own time bound.

A tool built from a handler renders the handler's JSON value as the answer: a string as it is,
anything else as compact JSON. A typed handler first reads its arguments; arguments it cannot
read are refused as invalid, with the reader's message.
-/

namespace ResilientAgent

/-- How the loop treats a tool that still fails after every guard gave up. -/
inductive Criticality where
  /-- Its failure fails the run. -/
  | critical
  /-- Its failure becomes an error result the model can work around. -/
  | optional
  deriving DecidableEq, Inhabited

def Criticality.name : Criticality → String
  | .critical => "critical"
  | .optional => "optional"

def Criticality.debugText : Criticality → String
  | .critical => "Critical"
  | .optional => "Optional"

/-- One call of a tool. -/
structure ToolInvocation where
  id : String
  name : String
  arguments : Json
  /-- The request the call belongs to; part of the idempotency key. -/
  scope : String
  deriving Inhabited

/-- What a tool answered. -/
structure ToolOutput where
  id : String
  content : String
  deriving Inhabited

abbrev ToolService := ToolInvocation → Action (Except Fault ToolOutput)

abbrev Handler := Json → Action (Except Fault Json)

/-- A tool: what the model is shown, the runtime's policy for it, and its service. -/
structure ToolDef where
  name : String
  description : String
  parameters : Json
  criticality : Criticality := .critical
  /-- Calls are deduplicated by the idempotency guard. -/
  sideEffecting : Bool := false
  /-- Replaces the configured tool time bound. -/
  timeout : Option Duration := none
  service : ToolService

/-- A value as the text of a tool's answer: a string as it is, anything else as compact
JSON. -/
def renderValue : Json → String
  | .string s => s
  | other => other.render

namespace ToolDef

/-- A tool whose service runs `handler` on the arguments and renders its value; an invocation
routed to another name is refused. -/
def ofHandler (name description : String) (parameters : Json) (handler : Handler) : ToolDef :=
  { name, description, parameters
    service := fun inv => do
      if inv.name != name then
        return .error (.plain ("routed to wrong tool: expected=" ++ name ++ ", got=" ++ inv.name))
      return (← handler inv.arguments).map fun v => ⟨inv.id, renderValue v⟩ }

/-- A tool whose handler takes arguments read by `decode`; unreadable arguments are refused as
invalid with the reader's message. -/
def typed {α : Type} (name description : String) (parameters : Json) (decode : Decoder α)
    (handler : α → Action (Except Fault Json)) : ToolDef :=
  ofHandler name description parameters fun args =>
    match args.decode decode with
    | .ok a => handler a
    | .error e => pure (.error (.tool (.validation e.message)))

def spec (t : ToolDef) : ToolSpec := ⟨t.name, t.description, t.parameters⟩

/-- The debug text of a tool: its name and policy. -/
def debugText (t : ToolDef) : String :=
  "ToolDef \x7b name: " ++ Text.quoted t.name ++ ", criticality: " ++ t.criticality.debugText ++
    ", side_effecting: " ++ toString t.sideEffecting ++ ", timeout: " ++
    (match t.timeout with
     | some d => "Some(" ++ d.debugText ++ ")"
     | none => "None") ++ " \x7d"

end ToolDef

end ResilientAgent
