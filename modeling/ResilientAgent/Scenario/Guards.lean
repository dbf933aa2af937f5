import ResilientAgent.Service.Breaker
import ResilientAgent.Service.Bucket
import ResilientAgent.Service.Idempotency
import ResilientAgent.Scenario.Session
import ResilientAgent.Scenario.Timing

/-!
# Guard scenarios

Sessions that drive one kind of guard through a list of ops: breakers by dependency name,
token buckets by resource, and idempotent operations by key. Each op answers with its result
and the events it caused.
-/

namespace ResilientAgent

namespace Scenario

def unitJson : Except AgentError Unit → Json
  | .ok () => okJson .null
  | .error e => errJson (agentErrorJson e)

def countJson : Except AgentError Nat → Json
  | .ok n => okJson (Json.nat n)
  | .error e => errJson (agentErrorJson e)

def withEvents (act : Action (List (String × Json))) : Action Json := do
  let mark ← eventMark
  let fields ← act
  return .object (fields ++ [("events", ← eventsFrom mark)])

/-! ## Breakers -/

/-- A breaker op. -/
inductive BreakerOp where
  | call (name : String) (outcome : Outcome)
  /-- A call dropped while it runs. -/
  | abandon (name : String)
  | state (name : String)
  | reset (name : String)

def breakerOp? (op : Json) : Option BreakerOp :=
  match op.get? "call", op.get? "abandon", op.get? "state", op.get? "reset" with
  | some (.string name), _, _, _ => (op.read "outcome" outcome?).map (.call name)
  | none, some (.string name), _, _ => some (.abandon name)
  | none, none, some (.string name), _ => some (.state name)
  | none, none, none, some (.string name) => some (.reset name)
  | _, _, _, _ => none

def BreakerOp.name : BreakerOp → String
  | .call name _ | .abandon name | .state name | .reset name => name

def breakerStateJson : Except AgentError BreakerState → Json
  | .ok s => s.toJson
  | .error e => errJson (agentErrorJson e)

def stalled : Action (Except Fault Json) := .await (fun _ => false) none (.pure (.ok .null))

def BreakerOp.result (b : CircuitBreaker) : BreakerOp → Action Json
  | .call _ o => resultJson id <$> b.call o.play
  | .abandon _ => do
    -- the call is dropped after one round, and its clean-up gets a round to run
    match ← Proc.race (b.call stalled) Proc.yieldNow with
    | .inl r => return resultJson id r
    | .inr () =>
      Proc.yieldNow
      return .string "abandoned"
  | .state _ => pure .null
  | .reset _ => unitJson <$> b.reset

def BreakerOp.run (registry : BreakerRegistry) (op : BreakerOp) : Action Json :=
  let b := registry.get op.name
  withEvents do
    let result ← op.result b
    let state ← b.state
    return [("result", result), ("state", breakerStateJson state),
      ("failure_threshold", Json.nat b.config.failureThreshold)]

def overrides? (j : Json) : Option (Keyed BreakerConfig) := do
  let fields ← j.object?
  fields.mapM fun (name, c) => return (name, ← typed BreakerConfig.decode c)

/-- Breakers from a default configuration and named overrides, driven by `call`, `abandon`,
`state` and `reset` ops. -/
def breakerOps (request : Json) : Option Json := do
  let defaults ← request.read "config" (typed BreakerConfig.decode)
  let overrides ← request.readOr "overrides" overrides? []
  let backend ← backendOf request
  let ops ← request.read "ops" Json.array?
  playOps (worldOn backend) ops fun op => (breakerOp? op).map (·.run ⟨defaults, overrides⟩)

/-! ## Buckets -/

inductive BucketOp where
  | consume (resource : String) (n : Float) (block : Bool)
  | level (resource : String)

def bucketOp? (op : Json) : Option BucketOp := do
  let resource ← op.readOr "resource" Json.str? "r"
  match op.get? "consume", op.get? "level" with
  | some n, _ => return .consume resource (← float? n) (← op.readOr "block" Json.bool? false)
  | none, some _ => return .level resource
  | none, none => none

def BucketOp.result (config : BucketConfig) (maxWait : Option Duration) : BucketOp → Action Json
  | .consume resource n block => do
    let granted ← ({ resource, config, maxWait } : TokenBucket).consume n block
    return .object [("granted", .bool granted)]
  | .level resource => do
    return match ← ({ resource, config, maxWait } : TokenBucket).level with
      | .ok tokens => .object [("level", Json.float tokens)]
      | .error e => errJson (agentErrorJson e)

/-- Runs an op, answering with the virtual time it waited; a database reports neither waits
nor events. -/
def BucketOp.run (config : BucketConfig) (maxWait : Option Duration) (op : BucketOp) : Action Json := do
  let mark ← eventMark
  let start ← Action.tick
  let result ← op.result config maxWait
  let waited ← Action.elapsedSince start
  let timed ← Proc.read fun w => .pure w.timed
  let events ← eventsFrom mark
  return .object [("result", result),
    ("waited", if timed then durationJson waited else .null),
    ("events", if timed then events else .null)]

def bucketOps (request : Json) : Option Json := do
  let config ← request.read "config" (typed BucketConfig.decode)
  let maxWait ← request.readOpt "max_wait" duration?
  let backend ← backendOf request
  let ops ← request.read "ops" Json.array?
  playOps (worldOn backend) ops fun op => (bucketOp? op).map (·.run config maxWait)

/-! ## Idempotent operations -/

def jsonKeeping : Keeping Json :=
  ⟨Json.render, fun text => (Json.parse text).mapError Fault.json⟩

/-- One scripted idempotent operation: its key and what running it does. -/
structure EnsureOp where
  key : String
  delay : Option Duration
  /-- Whether running it closes the store. -/
  closing : Bool
  result : Except Fault Json

def ensureOp? (op : Json) : Option EnsureOp := do
  let key ← op.read "ensure" idempotencyKey?
  let delay ← op.readOpt "delay" duration?
  let closing ← op.readOr "close_during" Json.bool? false
  let result ← match op.get? "ok", op.get? "err" with
    | some v, _ => some (Except.ok v)
    | none, some e => (fault? e).map Except.error
    | none, none => none
  return ⟨key.text, delay, closing, result⟩

/-- What running the operation does: it counts the run, may close the store, gives way once,
sleeps its delay and answers. -/
def EnsureOp.effect (e : EnsureOp) : Action (Except Fault Json) := do
  Proc.modify (·.bump "executions")
  if e.closing then
    Proc.modify fun w => { w with store := { w.store with closed := true } }
  Proc.yieldNow
  if let some d := e.delay then Action.sleep d
  return e.result

/-- Runs the op under the guard: its result, and whether any operation ran while it was in
progress. -/
def EnsureOp.run (g : IdempotencyGuard) (e : EnsureOp) : Action (Json × Bool) := do
  let before ← Proc.read fun w => .pure (w.count "executions")
  let r ← g.ensure e.key jsonKeeping e.effect
  let after ← Proc.read fun w => .pure (w.count "executions")
  return (resultJson id r, before != after)

/-- An op of an idempotency session. -/
inductive IdempotencyOp where
  | ensure (e : EnsureOp)
  /-- Several ensures side by side. -/
  | concurrent (es : List EnsureOp)
  | purge

def idempotencyOp? (op : Json) : Option IdempotencyOp :=
  if op.has "ensure" then (ensureOp? op).map .ensure
  else if op.has "concurrent" then (op.read "concurrent" (Json.readEach ensureOp?)).map .concurrent
  else if op.has "purge" then some .purge
  else none

def ensureJson : Json × Bool → List (String × Json)
  | (r, executed) => [("result", r), ("executed", .bool executed)]

def IdempotencyOp.run (g : IdempotencyGuard) : IdempotencyOp → Action Json
  | .ensure e => withEvents (ensureJson <$> e.run g)
  | .concurrent es => withEvents do
    let rs ← Proc.all (es.map (·.run g))
    let executions ← Proc.read fun w => .pure (w.count "executions")
    return [("results", .array (rs.map fun r => .object (ensureJson r))),
      ("executions", Json.nat executions)]
  | .purge => withEvents do
    return [("purged", countJson (← g.purge))]

/-- Idempotent operations under one time to live, driven by `ensure`, `concurrent` and
`purge` ops. -/
def idempotencyOps (request : Json) : Option Json := do
  let ttl ← request.read "ttl" duration?
  let backend ← backendOf request
  let ops ← request.read "ops" Json.array?
  playOps (worldOn backend) ops fun op => (idempotencyOp? op).map (·.run ⟨ttl⟩)

end Scenario

end ResilientAgent
