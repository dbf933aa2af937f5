import ResilientAgent.Scenario.Guards
import ResilientAgent.Scenario.Model
import ResilientAgent.Scenario.Observe
import ResilientAgent.Service.Stack

/-!
# The resilience stack in scenarios

A scenario puts one declared tool under the whole resilience stack of a configuration and
invokes it op by op, reporting each result, how often the tool's handler ran, the time the
invocation took and the events it caused. Between invocations it may force failures through a
breaker, read or reset a breaker, or read the level of the tool or model bucket; agent
scenarios share these guard ops.

Times are virtual and only kept in memory: a store in a database reports none.
-/

namespace ResilientAgent

namespace Scenario

/-- An op on the guards of a deployment rather than on a service. -/
inductive GuardOp where
  /-- Forces `times` transient failures through the dependency's breaker. -/
  | trip (dependency : String) (times : Nat)
  | breaker (dependency : String)
  | reset (dependency : String)
  /-- Reads the level of the `tools` or `model` bucket. -/
  | level (resource : String)

def guardOp? (op : Json) : Option GuardOp :=
  match op.get? "trip", op.get? "breaker", op.get? "reset", op.get? "level" with
  | some spec, _, _, _ => do
    return .trip (← spec.read "dependency" Json.str?) (← spec.readOr "times" Json.u64? 1)
  | none, some (.string name), _, _ => some (.breaker name)
  | none, none, some (.string name), _ => some (.reset name)
  | none, none, none, some (.string "tools") => some (.level "tools")
  | none, none, none, some (.string "model") => some (.level "model")
  | _, _, _, _ => none

def forcedFailure : Action (Except Fault Unit) :=
  pure (.error (.agent (.transient "forced" "forced failure")))

def tripBreaker (b : CircuitBreaker) : Nat → Action Unit
  | 0 => pure ()
  | n + 1 => do
    let _ ← b.call forcedFailure
    tripBreaker b n

def bucketNamed (r : Resilience) (resource : String) : Option TokenBucket :=
  let policy := if resource == "model" then r.modelPolicy else DependencyPolicy.tool r.config "" none
  policy.bucket.map r.bucket

def GuardOp.run (r : Resilience) : GuardOp → Action Json
  | .trip dependency times => withEvents do
    let b := r.breakers.get dependency
    tripBreaker b times
    return [("state", breakerStateJson (← b.state))]
  | .breaker dependency => withEvents do
    return [("state", breakerStateJson (← (r.breakers.get dependency).state))]
  | .reset dependency => withEvents do
    return [("reset", unitJsonOr (.bool true) (← (r.breakers.get dependency).reset))]
  | .level resource => withEvents do
    match bucketNamed r resource with
    | none => return [("level", .null)]
    | some bucket =>
      match ← bucket.level with
      | .ok tokens => return [("level", Json.float tokens)]
      | .error _ => return [("level", .null)]
where
  /-- A success as `ok`, a failure by its error. -/
  unitJsonOr (ok : Json) : Except AgentError Unit → Json
    | .ok () => ok
    | .error e => errJson (agentErrorJson e)

def elapsedJson (timed : Bool) (d : Duration) : Json := if timed then durationJson d else .null

def toolOutputJson (o : ToolOutput) : Json := .object [("id", .string o.id), ("content", .string o.content)]

/-- Invokes a tool's service, answering with its result, the handler runs of `tool` it caused,
the time it took and its events. -/
def invokeJson (service : ToolService) (tool : String) (inv : ToolInvocation) : Action Json := do
  let mark ← eventMark
  let start ← Action.tick
  let before ← Proc.read fun w => .pure (w.count (callCounter tool))
  let result ← service inv
  let elapsed ← Action.elapsedSince start
  let w ← Proc.get
  return .object [("result", resultJson toolOutputJson result),
    ("calls", Json.nat (w.count (callCounter tool) - before)),
    ("elapsed", elapsedJson w.timed elapsed), ("events", ← eventsFrom mark)]

inductive StackOp where
  | invoke (id : String) (arguments : Json) (scope : String)
  | guard (op : GuardOp)

def stackOp? (op : Json) : Option StackOp :=
  match op.get? "invoke" with
  | some spec => do
    return .invoke (← spec.readOr "id" Json.str? "call_1") (spec.memberOr "args" (.object []))
      (← spec.readOr "scope" Json.str? "scope-1")
  | none => (guardOp? op).map .guard

def policySummary (p : DependencyPolicy) : Json :=
  .object [("name", .string p.name), ("timeout", durationJson p.timeout),
    ("timeout_scope", .string p.timeoutScope.name), ("max_retries", Json.nat p.retry.maxRetries),
    ("bucket", .bool p.bucket.isSome)]

/-- A declared tool under the resilience stack of a configuration, driven by `invoke` and guard
ops; the answer also names the tool's policy. -/
def toolStackOps (request : Json) : Option Json :=
  match runtimeConfig? request, request.read "tool" toolShape?, backendOf request,
      request.read "ops" Json.array? with
  | some config, some shape, some backend, some ops =>
    match shape.build? with
    | none => none
    | some declared =>
      let r : Resilience := ⟨config⟩
      let tool := declared.tool
      let service := r.toolService tool
      let answers := playOps (worldOn backend) ops fun op =>
        (stackOp? op).map fun
          | .invoke id arguments scope => invokeJson service tool.name ⟨id, tool.name, arguments, scope⟩
          | .guard g => g.run r
      answers.map (·.withMember "policy" (policySummary (r.toolPolicy tool)))
  | _, _, _, _ => none

end Scenario

end ResilientAgent
