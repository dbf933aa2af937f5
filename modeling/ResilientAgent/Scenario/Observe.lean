import ResilientAgent.Observe.Event
import ResilientAgent.Resilience.Policy
import ResilientAgent.Scenario.Policies

/-!
# Events and policies in scenarios

Scenarios that feed described events to the sinks (memory sinks that count failed calls and
job transitions, a logging sink, a fan-out to several), and that show the dependency policies a
configuration gives the model and the tools.
-/

namespace ResilientAgent

namespace Scenario

def loopState? (j : Json) : Option LoopState :=
  match j with
  | .string "done" => some .done
  | .string "iteration_limit_reached" => some .iterationLimitReached
  | other =>
    match other.get? "running", other.get? "awaiting_tool", other.get? "failed" with
    | some r, _, _ => (r.read "iteration" Json.u64?).map LoopState.running
    | none, some a, _ => do return .awaitingTool (← a.read "iteration" Json.u64?) (← a.read "pending" Json.u64?)
    | none, none, some f => (f.read "code" Json.str?).map LoopState.failed
    | none, none, none => none

def jobStatus? (j : Json) : Option JobStatus := do
  (JobStatus.ofName (← j.str?)).toOption

def errorKind? (j : Json) : Option ErrorKind :=
  match j.str? with
  | some "transient" => some .transient
  | some "permanent" => some .permanent
  | some "cancelled" => some .cancelled
  | _ => none

def callOutcome? (j : Json) : Option CallOutcome :=
  match j with
  | .string "ok" => some .ok
  | other => (other.read "failed" errorKind?).map CallOutcome.failed

def runtimeEvent? (j : Json) : Option RuntimeEvent := do
  let text (key : String) : Option String := j.read key Json.str?
  let count (key : String) : Option Nat := j.read key Json.u64?
  match ← text "event" with
  | "call" => return .call (← text "dependency") (← j.read "latency" duration?) (← j.read "outcome" callOutcome?)
  | "retry_scheduled" =>
    return .retryScheduled (← text "dependency") (← count "attempt") (← j.read "delay" duration?) (← text "error")
  | "retry_exhausted" => return .retryExhausted (← text "dependency") (← count "attempts")
  | "breaker_transition" =>
    return .breakerTransition (← text "dependency") (← j.read "from" circuitState?) (← j.read "to" circuitState?)
  | "breaker_rejected" => return .breakerRejected (← text "dependency")
  | "rate_limited" =>
    return .rateLimited (← text "resource") (← j.read "waited" duration?) (← j.read "granted" Json.bool?)
  | "idempotent_replay" => return .idempotentReplay (← text "key")
  | "tool_degraded" => return .toolDegraded (← text "tool") (← text "reason")
  | "loop_phase" => return .loopPhase (← text "scope") (← j.read "state" loopState?)
  | "job_transition" =>
    return .jobTransition (← text "job_id") (← j.readOpt "from" jobStatus?) (← j.read "to" jobStatus?)
  | "leases_reaped" => return .leasesReaped (← count "requeued") (← count "failed")
  | _ => none

def sinkCounts (events : List RuntimeEvent) : Json :=
  .object [("failures", Json.nat (events.countP RuntimeEvent.isFailedCall)),
    ("jobs", Json.nat (events.countP RuntimeEvent.isJobTransition))]

/-- Events fed to a sink: `noop`, `tracing` (logs), `memory` (the first memory sink) or `multi`
(both memory sinks and the logs). -/
def feedSinks (request : Json) : Option Json := do
  let events ← request.read "events" (Json.readEach runtimeEvent?)
  let (first, second, logged) ← match ← request.read "sink" Json.str? with
    | "noop" => some ([], [], false)
    | "tracing" => some ([], [], true)
    | "memory" => some (events, [], false)
    | "multi" => some (events, events, true)
    | _ => none
  let records (es : List RuntimeEvent) : Json := .array (es.map (RuntimeEvent.toJson false))
  return .object [("counts", .array [sinkCounts first, sinkCounts second]),
    ("logs", .array (if logged then events.map fun e => e.logRecord.toJson else [])),
    ("memory", .array [records first, records second])]

def policyJson (p : DependencyPolicy) : Json :=
  .object [("name", .string p.name), ("backoff", backoffJson p.retry.backoff),
    ("max_retries", Json.nat p.retry.maxRetries),
    ("bucket", Json.opt (fun b => .string b.resource) p.bucket),
    ("timeout_scope", .string p.timeoutScope.name), ("timeout", durationJson p.timeout)]

def runtimeConfig? (request : Json) : Option RuntimeConfig :=
  request.readOr "config" (typed RuntimeConfig.decode) {}

def dependencyPolicies (request : Json) : Option Json := do
  let config ← runtimeConfig? request
  let tools ← request.read "tools" Json.array?
  let toolPolicies ← tools.mapM fun t => do
    return DependencyPolicy.tool config (← t.read "name" Json.str?) (← t.readOpt "timeout" duration?)
  let roundTrip := (typed RuntimeConfig.decode config.toJson).map (· == config)
  return .object [("config_roundtrip", .bool (roundTrip.getD false)),
    ("model", policyJson (DependencyPolicy.model config)),
    ("tools", .array (toolPolicies.map policyJson)),
    ("now", instantJson Instant.scriptEpoch),
    ("sink_events", .array [RuntimeEvent.toJson true (.breakerRejected "probe")])]

end Scenario

end ResilientAgent
