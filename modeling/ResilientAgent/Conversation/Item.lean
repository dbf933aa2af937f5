import ResilientAgent.Json.Decode

/-!
# Conversation items

The provider-neutral shapes the loop works with: messages, the tool calls a model asks for,
their results, token usage, and one request to and one response from a model.

Each shape has the JSON form the runtime stores and exchanges. A message writes only what it
has: no `tool_calls` when there are none, no `tool_call_id` when absent, and no `is_error` when
false. Token counts are unsigned 64-bit words and add with wrap-around.
-/

namespace ResilientAgent

/-- Who speaks a message. -/
inductive Role where
  | user
  | assistant
  | tool
  deriving Repr, DecidableEq, Inhabited

/-- The name of a role in data. -/
def Role.name : Role → String
  | .user => "user"
  | .assistant => "assistant"
  | .tool => "tool"

/-- A tool call requested by the model. -/
structure ToolCall where
  id : String
  name : String
  input : Json
  deriving Inhabited

/-- A message in a conversation. -/
structure Message where
  role : Role
  content : String
  toolCalls : List ToolCall := []
  toolCallId : Option String := none
  isError : Bool := false
  deriving Inhabited

/-- The outcome of one tool call, fed back to the model. -/
structure ToolResult where
  toolCallId : String
  output : String
  isError : Bool
  deriving Inhabited

/-- Why the model stopped. -/
inductive StopReason where
  | endTurn
  | toolUse
  | maxTokens
  deriving Repr, DecidableEq, Inhabited

/-- The name of a stop reason in data. -/
def StopReason.name : StopReason → String
  | .endTurn => "end_turn"
  | .toolUse => "tool_use"
  | .maxTokens => "max_tokens"

/-- A function advertised to the model. -/
structure ToolSpec where
  name : String
  description : String
  parameters : Json
  deriving Inhabited

/-- Token accounting, in unsigned 64-bit words. -/
structure Usage where
  inputTokens : Nat := 0
  outputTokens : Nat := 0
  deriving Repr, DecidableEq, Inhabited

/-- One call to the model. -/
structure ModelRequest where
  system : Option String := none
  messages : List Message := []
  tools : List ToolSpec := []
  maxTokens : Option Nat := none
  /-- A binary32 value, held as the binary64 value it equals. -/
  temperature : Option Float := none
  deriving Inhabited

/-- The model's answer to one call. -/
structure ModelResponse where
  content : Option String
  toolCalls : List ToolCall
  stopReason : StopReason
  usage : Usage := {}
  deriving Inhabited

namespace Message

def user (content : String) : Message := { role := .user, content }

def assistant (content : String) : Message := { role := .assistant, content }

def assistantWithToolCalls (content : String) (toolCalls : List ToolCall) : Message :=
  { role := .assistant, content, toolCalls }

def ofToolResult (r : ToolResult) : Message :=
  { role := .tool, content := r.output, toolCallId := some r.toolCallId, isError := r.isError }

end Message

def wordAdd (a b : Nat) : Nat := (a + b) % Nat.pow 2 64

namespace Usage

def add (a b : Usage) : Usage :=
  ⟨wordAdd a.inputTokens b.inputTokens, wordAdd a.outputTokens b.outputTokens⟩

def total (u : Usage) : Nat := wordAdd u.inputTokens u.outputTokens

end Usage

namespace ModelResponse

def endTurn (content : String) : ModelResponse :=
  { content := some content, toolCalls := [], stopReason := .endTurn }

def toolUse (toolCalls : List ToolCall) : ModelResponse :=
  { content := none, toolCalls, stopReason := .toolUse }

def toMessage (r : ModelResponse) : Message :=
  Message.assistantWithToolCalls (r.content.getD "") r.toolCalls

end ModelResponse

/-! ## JSON forms -/

def ToolCall.toJson (c : ToolCall) : Json :=
  .object [("id", .string c.id), ("name", .string c.name), ("input", c.input)]

/-- The JSON form of a message: empty tool calls, an absent call id and a false error flag are
left out. -/
def Message.toJson (m : Message) : Json :=
  .object ([("role", Json.string m.role.name), ("content", .string m.content)] ++
    (if m.toolCalls.isEmpty then [] else [("tool_calls", .array (m.toolCalls.map ToolCall.toJson))]) ++
    (match m.toolCallId with
      | some id => [("tool_call_id", .string id)]
      | none => []) ++
    (if m.isError then [("is_error", .bool true)] else []))

def Usage.toJson (u : Usage) : Json :=
  .object [("input_tokens", Json.nat u.inputTokens), ("output_tokens", Json.nat u.outputTokens)]

def ToolSpec.toJson (s : ToolSpec) : Json :=
  .object [("name", .string s.name), ("description", .string s.description),
    ("parameters", s.parameters)]

/-- The JSON form of a model response. -/
def ModelResponse.toJson (r : ModelResponse) : Json :=
  .object [("content", Json.opt Json.string r.content),
    ("tool_calls", .array (r.toolCalls.map ToolCall.toJson)),
    ("stop_reason", .string r.stopReason.name), ("usage", r.usage.toJson)]

/-- The JSON form of a binary32 value. -/
def binary32Json (x : Float) : Json :=
  match Numeral.dataText? .binary32 (Numeral.toBinary32Bits x) with
  | some _ => .number (.float x)
  | none => .null

/-- The JSON form of a model request. -/
def ModelRequest.toJson (r : ModelRequest) : Json :=
  .object [("system", Json.opt Json.string r.system),
    ("messages", .array (r.messages.map Message.toJson)),
    ("tools", .array (r.tools.map ToolSpec.toJson)),
    ("max_tokens", Json.opt Json.nat r.maxTokens),
    ("temperature", Json.opt binary32Json r.temperature)]

/-! ## Reading -/

/-- A role by name. -/
def Role.decode : Decoder Role := fun n => do
  match ← Node.variant ["user", "assistant", "tool"] n with
  | "user" => .ok .user
  | "assistant" => .ok .assistant
  | _ => .ok .tool

/-- A stop reason by name. -/
def StopReason.decode : Decoder StopReason := fun n => do
  match ← Node.variant ["end_turn", "tool_use", "max_tokens"] n with
  | "end_turn" => .ok .endTurn
  | "tool_use" => .ok .toolUse
  | _ => .ok .maxTokens

/-- A tool call: `id`, `name` and `input`, all required. -/
def ToolCall.decode : Decoder ToolCall := fun n => do
  let ms ← n.recordOrItems "struct ToolCall"
    [Node.field "id" Node.string, Node.field "name" Node.string, Node.field "input" Node.json]
    ["id", "name", "input"]
  return ⟨Members.getD ms "id" Node.string "", Members.getD ms "name" Node.string "",
    Members.getD ms "input" Node.json .null⟩

/-- A message: `role` and `content` required, the rest optional. -/
def Message.decode : Decoder Message := fun n => do
  let ms ← n.recordOrItems "struct Message"
    [Node.field "role" Role.decode, Node.field "content" Node.string,
     Node.field "tool_calls" (Node.list ToolCall.decode),
     Node.field "tool_call_id" (Node.option Node.string), Node.field "is_error" Node.bool]
    ["role", "content"]
  return { role := Members.getD ms "role" Role.decode .user
           content := Members.getD ms "content" Node.string ""
           toolCalls := Members.getD ms "tool_calls" (Node.list ToolCall.decode) []
           toolCallId := Members.getD ms "tool_call_id" (Node.option Node.string) none
           isError := Members.getD ms "is_error" Node.bool false }

/-- A tool result: every member required. -/
def ToolResult.decode : Decoder ToolResult := fun n => do
  let ms ← n.recordOrItems "struct ToolResult"
    [Node.field "tool_call_id" Node.string, Node.field "output" Node.string,
     Node.field "is_error" Node.bool]
    ["tool_call_id", "output", "is_error"]
  return ⟨Members.getD ms "tool_call_id" Node.string "", Members.getD ms "output" Node.string "",
    Members.getD ms "is_error" Node.bool false⟩

/-- Usage: both counts required. -/
def Usage.decode : Decoder Usage := fun n => do
  let ms ← n.recordOrItems "struct Usage" [Node.field "input_tokens" Node.u64,
    Node.field "output_tokens" Node.u64] ["input_tokens", "output_tokens"]
  return ⟨Members.getD ms "input_tokens" Node.u64 0, Members.getD ms "output_tokens" Node.u64 0⟩

/-- A tool spec: every member required. -/
def ToolSpec.decode : Decoder ToolSpec := fun n => do
  let ms ← n.recordOrItems "struct ToolSpec" [Node.field "name" Node.string,
    Node.field "description" Node.string, Node.field "parameters" Node.json]
    ["name", "description", "parameters"]
  return ⟨Members.getD ms "name" Node.string "", Members.getD ms "description" Node.string "",
    Members.getD ms "parameters" Node.json .null⟩

/-- A model response: `tool_calls` and `stop_reason` required, `content` and `usage`
optional. -/
def ModelResponse.decode : Decoder ModelResponse := fun n => do
  let ms ← n.recordOrItems "struct ModelResponse"
    [Node.field "content" (Node.option Node.string),
     Node.field "tool_calls" (Node.list ToolCall.decode),
     Node.field "stop_reason" StopReason.decode, Node.field "usage" Usage.decode]
    ["tool_calls", "stop_reason"]
  return { content := Members.getD ms "content" (Node.option Node.string) none
           toolCalls := Members.getD ms "tool_calls" (Node.list ToolCall.decode) []
           stopReason := Members.getD ms "stop_reason" StopReason.decode .endTurn
           usage := Members.getD ms "usage" Usage.decode {} }

end ResilientAgent
