import ResilientAgent.Provider.ClientError
import ResilientAgent.Conversation.Item
import ResilientAgent.Json.Print

/-!
# The chat-completions wire format

How a model request is written for a chat-completions endpoint, and how its answer is read
back.

A request body holds the model, the messages (a system message first when there is one), the
tools when there are any, and the temperature and the token limit when set. An assistant
message writes its text only when it is not empty and its tool calls only when there are any;
a tool call's input travels as compact JSON text. A tool message always names the call it
answers, by an empty identifier when it has none. The temperature is a binary32 value and is
written as the shortest decimal that reads back to it.

An answer with a success status must decode as a completion, and one with any other status
must decode as an error object. Decoding is strict: a missing required member, a value of the
wrong type or an unknown enumeration case makes the answer undecodable, which is a client
failure of its own. Of a completion only the first choice counts: its text, its tool calls
(whose argument text is read as JSON when it is JSON and kept as text otherwise), why it
stopped and the token counts.
-/

namespace ResilientAgent

/-! ## Requests -/

/-- The JSON value a binary32 `x` reads back as once written as its shortest decimal. -/
def binary32Decimal (x : Float) : Json :=
  match Numeral.dataText? .binary32 (Numeral.toBinary32Bits x) with
  | some text =>
    match Numeral.parseFloat? text with
    | some y => .number (.float y)
    | none => .null
  | none => .null

def ToolCall.wireJson (c : ToolCall) : Json :=
  .object [("id", .string c.id), ("type", .string "function"),
    ("function", .object [("name", .string c.name), ("arguments", .string c.input.render)])]

/-- A message as a request carries it. -/
def Message.wireJson (m : Message) : Json :=
  match m.role with
  | .user => .object [("role", .string "user"), ("content", .string m.content)]
  | .assistant =>
    .object ([("role", .string "assistant")] ++
      (if m.content.isEmpty then [] else [("content", .string m.content)]) ++
      (if m.toolCalls.isEmpty then [] else [("tool_calls", .array (m.toolCalls.map ToolCall.wireJson))]))
  | .tool =>
    .object [("role", .string "tool"), ("content", .string m.content),
      ("tool_call_id", .string (m.toolCallId.getD ""))]

/-- A tool as a request offers it. -/
def ToolSpec.wireJson (t : ToolSpec) : Json :=
  .object [("type", .string "function"),
    ("function", .object [("name", .string t.name), ("description", .string t.description),
      ("parameters", t.parameters)])]

/-- The body of a chat-completions request for `model`. -/
def chatRequestBody (model : String) (r : ModelRequest) : Json :=
  let system := r.system.map fun s => Json.object [("role", .string "system"), ("content", .string s)]
  .object ([("model", .string model),
    ("messages", .array (system.toList ++ r.messages.map Message.wireJson))] ++
    (if r.tools.isEmpty then [] else [("tools", .array (r.tools.map ToolSpec.wireJson))]) ++
    (r.temperature.map fun t => ("temperature", binary32Decimal t)).toList ++
    (r.maxTokens.map fun n => ("max_tokens", Json.nat n)).toList)

/-! ## Answers -/

/-- Why the model stopped, as a completion reports it. -/
inductive FinishReason where
  | stop
  | length
  | toolCalls
  | contentFilter
  | functionCall
  deriving Repr, DecidableEq, Inhabited

/-- A tool call in a completion: its argument text is not read yet. -/
structure CompletionCall where
  id : String
  name : String
  arguments : String
  deriving Inhabited

/-- The input a tool call's argument text stands for: its JSON value, or the text itself. -/
def CompletionCall.input (c : CompletionCall) : Json :=
  match Json.parse c.arguments with
  | .ok v => v
  | .error _ => .string c.arguments

/-- The first choice of a completion, as far as the runtime uses it. -/
structure CompletionChoice where
  content : Option String
  toolCalls : List CompletionCall
  finishReason : Option FinishReason
  deriving Inhabited

/-- A decoded completion: its choices and its token counts. -/
structure Completion where
  choices : List CompletionChoice
  /-- Prompt and completion tokens, when reported. -/
  usage : Option (Nat × Nat)
  deriving Inhabited

namespace Completion

/-- A finish reason by name. -/
def finishReason : Decoder FinishReason := fun n => do
  match ← Node.variant ["stop", "length", "tool_calls", "content_filter", "function_call"] n with
  | "stop" => .ok .stop
  | "length" => .ok .length
  | "tool_calls" => .ok .toolCalls
  | "content_filter" => .ok .contentFilter
  | _ => .ok .functionCall

/-- A record whose fields are all needed in its array form: a completion's records have no
defaults, only optional members. -/
def strictRecord (expected : String) (fields : List Node.FieldCheck) (required : List String) :
    Decoder (List (String × Node)) :=
  Node.recordOrItemsWith expected fields required (fields.map (·.name))

/-- A function call: its name and argument text. -/
def functionCall : Decoder (String × String) := fun n => do
  let ms ← strictRecord "struct FunctionCall"
    [Node.field "name" Node.string, Node.field "arguments" Node.string] ["name", "arguments"] n
  return (Members.getD ms "name" Node.string "", Members.getD ms "arguments" Node.string "")

/-- A tool call of a completion; its type can only be `function`. -/
def toolCall : Decoder CompletionCall := fun n => do
  let ms ← strictRecord "struct ChatCompletionMessageToolCall"
    [Node.field "id" Node.string, Node.field "type" (Node.variant ["function"]),
     Node.field "function" functionCall] ["id", "type", "function"] n
  let (name, arguments) := Members.getD ms "function" functionCall ("", "")
  return ⟨Members.getD ms "id" Node.string "", name, arguments⟩

def role : Decoder String := Node.variant ["system", "user", "assistant", "tool", "function"]

/-- The message of a choice: its text and tool calls. -/
def message : Decoder (Option String × List CompletionCall) := fun n => do
  let ms ← strictRecord "struct ChatCompletionResponseMessage"
    [Node.field "content" (Node.option Node.string), Node.field "refusal" (Node.option Node.string),
     Node.field "tool_calls" (Node.option (Node.list toolCall)), Node.field "role" role,
     Node.field "function_call" (Node.option functionCall)] ["role"] n
  return (Members.getD ms "content" (Node.option Node.string) none,
    (Members.getD ms "tool_calls" (Node.option (Node.list toolCall)) none).getD [])

/-- The log probabilities of one candidate token. -/
def topLogprob : Decoder Unit := fun n => do
  let _ ← strictRecord "struct TopLogprobs"
    [Node.field "token" Node.string, Node.field "logprob" Node.f32,
     Node.field "bytes" (Node.option (Node.list Node.u8))] ["token", "logprob"] n

/-- The log probabilities of one token and its top candidates. -/
def tokenLogprob : Decoder Unit := fun n => do
  let _ ← strictRecord "struct ChatCompletionTokenLogprob"
    [Node.field "token" Node.string, Node.field "logprob" Node.f32,
     Node.field "bytes" (Node.option (Node.list Node.u8)),
     Node.field "top_logprobs" (Node.list topLogprob)] ["token", "logprob", "top_logprobs"] n

/-- The log probabilities of a choice; they are checked and not kept. -/
def logprobs : Decoder Unit := fun n => do
  let _ ← strictRecord "struct ChatChoiceLogprobs"
    [Node.field "content" (Node.option (Node.list tokenLogprob)),
     Node.field "refusal" (Node.option (Node.list tokenLogprob))] [] n

/-- One choice of a completion. -/
def choice : Decoder CompletionChoice := fun n => do
  let ms ← strictRecord "struct ChatChoice"
    [Node.field "index" Node.u32, Node.field "message" message,
     Node.field "finish_reason" (Node.option finishReason),
     Node.field "logprobs" (Node.option logprobs)] ["index", "message"] n
  let (content, toolCalls) := Members.getD ms "message" message (none, [])
  return ⟨content, toolCalls, Members.getD ms "finish_reason" (Node.option finishReason) none⟩

/-- Token counts: prompt, completion and total, each an unsigned 32-bit word. -/
def tokenCounts : Decoder (Nat × Nat) := fun n => do
  let ms ← strictRecord "struct CompletionUsage"
    [Node.field "prompt_tokens" Node.u32, Node.field "completion_tokens" Node.u32,
     Node.field "total_tokens" Node.u32] ["prompt_tokens", "completion_tokens", "total_tokens"] n
  return (Members.getD ms "prompt_tokens" Node.u32 0, Members.getD ms "completion_tokens" Node.u32 0)

/-- A completion. -/
def decode : Decoder Completion := fun n => do
  let ms ← strictRecord "struct CreateChatCompletionResponse"
    [Node.field "id" Node.string, Node.field "choices" (Node.list choice),
     Node.field "created" Node.u32, Node.field "model" Node.string,
     Node.field "service_tier" (Node.option (Node.variant ["scale", "default"])),
     Node.field "system_fingerprint" (Node.option Node.string),
     Node.field "object" Node.string, Node.field "usage" (Node.option tokenCounts)]
    ["id", "choices", "created", "model", "object"] n
  return ⟨Members.getD ms "choices" (Node.list choice) [],
    Members.getD ms "usage" (Node.option tokenCounts) none⟩

/-- The model response a completion stands for: its first choice, stopping for tool use when
it says so or when it asks for tools, for the token limit when it says so, and at the end of
its turn otherwise. A completion without choices is no answer. -/
def toModelResponse (c : Completion) : Except AgentError ModelResponse :=
  match c.choices with
  | [] => .error (.modelBehavior "no choices in response")
  | first :: _ =>
    let toolCalls := first.toolCalls.map fun call => (⟨call.id, call.name, call.input⟩ : ToolCall)
    let stopReason : StopReason :=
      match first.finishReason with
      | some .toolCalls | some .functionCall => .toolUse
      | some .length => .maxTokens
      | _ => if toolCalls.isEmpty then .endTurn else .toolUse
    let usage : Usage := match c.usage with
      | some (prompt, completion) => ⟨prompt, completion⟩
      | none => {}
    .ok { content := first.content, toolCalls, stopReason, usage }

end Completion

/-- An error object. -/
def ApiError.decode : Decoder ApiError := fun n => do
  let text := Node.option Node.string
  let ms ← Completion.strictRecord "struct ApiError"
    [Node.field "message" Node.string, Node.field "type" text, Node.field "param" text,
     Node.field "code" text] ["message"] n
  return ⟨Members.getD ms "message" Node.string "", Members.getD ms "type" text none,
    Members.getD ms "param" text none, Members.getD ms "code" text none⟩

/-- An error answer: the error object under `error`. -/
def ApiError.decodeWrapped : Decoder ApiError := fun n => do
  let ms ← Completion.strictRecord "struct WrappedError" [Node.field "error" ApiError.decode]
    ["error"] n
  return Members.getD ms "error" ApiError.decode default

/-- An HTTP answer from the endpoint: its status and body text. -/
structure HttpReply where
  status : Nat
  body : String
  deriving Inhabited

/-- What an answer says: a completion when the status is a success, the endpoint's error
otherwise, and an undecodable answer when the body does not read as the one it must be. -/
def HttpReply.outcome (r : HttpReply) : Except ClientError Completion :=
  if 200 ≤ r.status && r.status < 300 then
    (decodeText Completion.decode r.body).mapError .undecodable
  else
    match decodeText ApiError.decodeWrapped r.body with
    | .ok e => .error (.api e)
    | .error e => .error (.undecodable e)

/-! ## The client -/

def isSchemeChar (c : Char) : Bool := c.isAlphanum || c == '+' || c == '-' || c == '.'

/-- An address as the HTTP client writes it: the scheme and host in lower case, the port left
out when it is the scheme's default, and `/` for an empty path; `none` when it is no absolute
address with a host. -/
def normalizedUrl? (url : String) : Option String := do
  let (scheme, after) ← match url.splitOn "://" with
    | scheme :: rest@(_ :: _) => some (scheme, "://".intercalate rest)
    | _ => none
  let schemeChars := scheme.toList
  if !(schemeChars.head?.any Char.isAlpha && schemeChars.all isSchemeChar) then none
  let cs := after.toList
  let authority := cs.takeWhile fun c => c != '/' && c != '?' && c != '#'
  let tail := String.ofList (cs.drop authority.length)
  let atSign := authority.reverse.takeWhile (· != '@')
  let userinfo := String.ofList (authority.take (authority.length - atSign.length))
  let hostPort := atSign.reverse
  let (host, port) := match hostPort with
    | '[' :: _ =>
      let inside := hostPort.takeWhile (· != ']')
      let rest := hostPort.drop (inside.length + 1)
      (String.ofList (inside ++ [']']), String.ofList (rest.drop 1))
    | _ =>
      match (String.ofList hostPort).splitOn ":" with
      | [h] => (h, "")
      | parts => (":".intercalate parts.dropLast, parts.getLast?.getD "")
  if host.isEmpty then none
  let scheme := scheme.toLower
  let portValue : Option Nat :=
    if port.isEmpty then none
    else if port.all Char.isDigit then some (port.foldl (fun acc c => acc * 10 + (c.toNat - '0'.toNat)) 0)
    else some 65536
  if portValue.any (· > 65535) then none
  let shownPort := match portValue with
    | some 80 => if scheme == "http" then "" else ":80"
    | some 443 => if scheme == "https" then "" else ":443"
    | some p => ":" ++ toString p
    | none => ""
  return scheme ++ "://" ++ userinfo ++ host.toLower ++ shownPort ++ (if tail.isEmpty then "/" else tail)

/-- A chat-completions client: the model it asks for and the base of the API. -/
structure ChatClient where
  model : String
  apiBase : String
  deriving Inhabited

def defaultApiBase : String := "https://api.openai.com/v1"

universe u

namespace ChatClient

def endpoint (c : ChatClient) : String := c.apiBase ++ "/chat/completions"

/-- The failure of a request that could not be sent: an address that is no absolute address
with a host cannot even be built into a request, one of another scheme than `http` or `https`
is refused, and any other is one the request could not reach. -/
def sendFailure (c : ChatClient) : ClientError :=
  match normalizedUrl? c.endpoint with
  | none => .http "builder error"
  | some url =>
    if url.startsWith "http://" || url.startsWith "https://" then
      .http ("error sending request for url (" ++ url ++ ")")
    else .http ("builder error for url (" ++ url ++ ")")

/-- Asks the model once. `post` delivers a body to an address and gives the answer, or `none`
when the request could not be sent, which is a transport failure. -/
def complete {m : Type → Type u} [Monad m] (c : ChatClient) (post : String → Json → m (Option HttpReply))
    (r : ModelRequest) : m (Except AgentError ModelResponse) := do
  match ← post c.endpoint (chatRequestBody c.model r) with
  | none => return .error c.sendFailure.toAgentError
  | some reply =>
    return match reply.outcome with
      | .error e => .error e.toAgentError
      | .ok completion => completion.toModelResponse

end ChatClient

end ResilientAgent
