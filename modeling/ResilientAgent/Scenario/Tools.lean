import ResilientAgent.Tools.Registry
import ResilientAgent.Scenario.Session
import ResilientAgent.Scenario.Timing

/-!
# Scenario tools

The tools a scenario declares. A *scripted* tool answers call number `n` with outcome `n` of
its script, the last one repeating; the value `"$args"`, or an empty script, answers with the
arguments. Calls are counted per tool name across the whole scenario. The *typed* tools read
their arguments into a record first:

* `add` adds two signed 64-bit integers, refusing a sum that does not fit;
* `echo` repeats a text up to 100 times, once by default;
* `stats` counts, sums and takes the largest of a list of numbers;
* `fail` fails with the class and message it is given;
* `text` takes a bare string, so its schema is not an object schema.
-/

namespace ResilientAgent

namespace Scenario

def callCounter (name : String) : String := "tool " ++ name

/-- The handler of a scripted tool: call `n` plays outcome `n` of the script, the last one
repeating. -/
def scriptedHandler (name : String) (script : List Outcome) : Handler := fun args => do
  let n ← Proc.modifyGet fun w => (w.count (callCounter name), w.bump (callCounter name))
  match script.getLast? with
  | none => return .ok args
  | some last =>
    let o := script.getD n last
    match ← o.play with
    | .ok (.string "$args") => return .ok args
    | other => return other

/-! ## Typed tools -/

def addSchema : Json :=
  .object [("properties", .object [
      ("a", .object [("format", .string "int64"), ("type", .string "integer")]),
      ("b", .object [("format", .string "int64"), ("type", .string "integer")])]),
    ("required", .array [.string "a", .string "b"]), ("title", .string "AddArgs"),
    ("type", .string "object")]

def echoSchema : Json :=
  .object [("properties", .object [
      ("text", .object [("description", .string "Text to repeat"), ("type", .string "string")]),
      ("times", .object [("default", .null), ("format", .string "uint32"),
        ("minimum", Json.float 0.0), ("type", .array [.string "integer", .string "null"])])]),
    ("required", .array [.string "text"]), ("title", .string "EchoArgs"),
    ("type", .string "object")]

def statsSchema : Json :=
  .object [("properties", .object [
      ("values", .object [("items", .object [("format", .string "double"), ("type", .string "number")]),
        ("type", .string "array")])]),
    ("required", .array [.string "values"]), ("title", .string "StatsArgs"),
    ("type", .string "object")]

def failSchema : Json :=
  .object [("properties", .object [
      ("class", .object [("description", .string "One of timeout, validation, transient, permanent"),
        ("type", .string "string")]),
      ("message", .object [("type", .string "string")])]),
    ("required", .array [.string "class", .string "message"]), ("title", .string "FailArgs"),
    ("type", .string "object")]

def textSchema : Json := .object [("title", .string "String"), ("type", .string "string")]

def refusal (message : String) : Except Fault Json := .error (.tool (.validation message))

def addTool (name : String) : ToolDef :=
  ToolDef.typed name "Add two integers" addSchema
    (fun n => do
      let ms ← Node.recordOrItems "struct AddArgs" [Node.field "a" Node.i64, Node.field "b" Node.i64]
        ["a", "b"] n
      return (Members.getD ms "a" Node.i64 0, Members.getD ms "b" Node.i64 0))
    fun (a, b) => pure <|
      let sum := a + b
      if sum < -(Int.ofNat (Nat.pow 2 63)) || sum ≥ Int.ofNat (Nat.pow 2 63) then refusal "integer overflow" else .ok (Json.int sum)

def echoTool (name : String) : ToolDef :=
  ToolDef.typed name "Repeat text" echoSchema
    (fun n => do
      let ms ← Node.recordOrItems "struct EchoArgs"
        [Node.field "text" Node.string, Node.field "times" (Node.option Node.u32)] ["text"] n
      return (Members.getD ms "text" Node.string "", Members.getD ms "times" (Node.option Node.u32) none))
    fun (text, times) => pure <|
      let times := times.getD 1
      if times > 100 then refusal "times must be at most 100"
      else .ok (.string (String.join (List.replicate times text)))

def larger (a b : Float) : Float := if b > a then b else a

def statsTool (name : String) : ToolDef :=
  ToolDef.typed name "Summarize numbers" statsSchema
    (fun n => do
      let ms ← Node.recordOrItems "struct StatsArgs" [Node.field "values" (Node.list Node.f64)]
        ["values"] n
      return Members.getD ms "values" (Node.list Node.f64) [])
    fun values => pure <| .ok <| .object [("count", Json.nat values.length),
      ("max", Json.opt Json.float (values.foldl (fun m v => some ((m.map (larger · v)).getD v)) none)),
      ("sum", Json.float (values.foldl (· + ·) (-0.0)))]

def failTool (name : String) : ToolDef :=
  ToolDef.typed name "Fail on purpose" failSchema
    (fun n => do
      let ms ← Node.recordOrItems "struct FailArgs"
        [Node.field "class" Node.string, Node.field "message" Node.string] ["class", "message"] n
      return (Members.getD ms "class" Node.string "", Members.getD ms "message" Node.string ""))
    fun (cls, message) => pure <|
      match ToolErrorClass.ofName? cls with
      | some c => .error (.tool ⟨c, message⟩)
      | none => refusal "unknown class"

def textTool (name : String) : ToolDef :=
  ToolDef.typed name "Return the text" textSchema Node.string fun text => pure (.ok (.string text))

def typedTool? (kind name : String) : Option ToolDef :=
  match kind with
  | "add" => some (addTool name)
  | "echo" => some (echoTool name)
  | "stats" => some (statsTool name)
  | "fail" => some (failTool name)
  | "text" => some (textTool name)
  | _ => none

/-! ## Declarations -/

structure DeclaredTool where
  tool : ToolDef
  scripted : Bool

/-- The shape of a declared tool, read before its definition is built. -/
structure ToolShape where
  kind : String
  name : String
  description : String
  schema : Json
  script : List Outcome
  optional : Bool
  sideEffecting : Bool
  timeout : Option Duration

def toolShape? (j : Json) : Option ToolShape := do
  let kind ← j.readOr "kind" Json.str? "script"
  let name ← j.readOr "name" Json.str? (if kind == "script" then "tool" else kind)
  let description ← j.readOr "description" Json.str? "scripted tool"
  let schema := j.memberOr "schema" (.object [("type", .string "object")])
  let script ← j.readOr "script" (Json.readEach outcome?) []
  let optional ← j.readOr "optional" Json.bool? false
  let sideEffecting ← j.readOr "side_effecting" Json.bool? false
  let timeout ← j.readOpt "timeout" duration?
  return ⟨kind, name, description, schema, script, optional, sideEffecting, timeout⟩

def ToolShape.build? (s : ToolShape) : Option DeclaredTool :=
  let base : Option ToolDef :=
    if s.kind == "script" then some (ToolDef.ofHandler s.name s.description s.schema
      (scriptedHandler s.name s.script))
    else typedTool? s.kind s.name
  base.map fun t =>
    ⟨{ t with criticality := if s.optional then .optional else .critical
              sideEffecting := s.sideEffecting, timeout := s.timeout }, s.kind == "script"⟩

def declaredTools? (request : Json) : Option (List DeclaredTool) :=
  (request.readOr "tools" (Json.readEach toolShape?) []).bind fun shapes => shapes.mapM (·.build?)

def toolCallsJson (tools : List DeclaredTool) (w : World) : Json :=
  let names := (tools.filter (·.scripted)).map (·.tool.name)
  .object (names.eraseDups.map fun n => (n, Json.nat (w.count (callCounter n))))

/-! ## The registry and the router -/

def registryOps (request : Json) : Option Json :=
  match declaredTools? request, request.readOr "debug" Json.bool? false with
  | some tools, some debug =>
  let (registry, results) := tools.foldl (fun (acc : ToolRegistry × List Json) d =>
    let (r, results) := acc
    match r.register d.tool with
    | .ok r =>
      let t := d.tool
      (r, results ++ [okJson (.object ([("criticality", .string t.criticality.name),
        ("side_effecting", .bool t.sideEffecting),
        ("timeout", Json.opt durationJson t.timeout)] ++
        (if debug then [("debug", .string t.debugText)] else [])))])
    | .error e => (r, results ++ [errJson (agentErrorJson e)])) ({}, [])
  some (.object [("results", .array results), ("len", Json.nat registry.tools.length),
    ("is_empty", .bool registry.tools.isEmpty),
    ("specs", .array (registry.specs.map ToolSpec.toJson))])
  | _, _ => none

/-- One call through the router. -/
structure RoutedCall where
  name : String
  arguments : Json
  id : String
  scope : String

def routedCall? (j : Json) : Option RoutedCall := do
  return ⟨← j.read "name" Json.str?, (j.get? "args").getD (.object []),
    ← j.readOr "id" Json.str? "call_1", ← j.readOr "scope" Json.str? "scope"⟩

def typedToolOps (request : Json) : Option Json :=
  match declaredTools? request, request.readOr "calls" (Json.readEach routedCall?) [] with
  | some tools, some calls =>
  let router := ToolRouter.new (tools.map (·.tool))
  let run : Action Json := do
    let answers ← calls.mapM fun c => do
      let r ← router.call ⟨c.id, c.name, c.arguments, c.scope⟩
      return Json.object [("result", resultJson (fun (o : ToolOutput) =>
          .object [("id", .string o.id), ("content", .string o.content)]) r),
        ("contains", .bool (router.contains c.name)),
        ("criticality", .string (router.criticality c.name).name)]
    let w ← Proc.get
    return .object [("calls", .array answers),
      ("specs", .array (router.specs.map fun s => .string s.name)), ("tool_calls", toolCallsJson tools w)]
  ((Session.ofWorld {}).perform run).1
  | _, _ => none

end Scenario

end ResilientAgent
