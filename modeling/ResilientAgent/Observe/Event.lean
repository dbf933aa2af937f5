import ResilientAgent.Resilience.Breaker
import ResilientAgent.Jobs.Job
import ResilientAgent.Text.Quoted
import ResilientAgent.Json.Print

/-!
# Runtime events

Everything the runtime reports to the outside world is one `RuntimeEvent`: call timings, retry
scheduling and exhaustion, breaker transitions and rejections, rate-limit waits, idempotent
replays, tool degradations, loop phases, job transitions and reaped leases.

An event has two outward forms. Its *record* form is the JSON object a memory sink keeps, with
the call latency left out because it is wall-clock time. Its *log* form is the structured log
line a logging sink writes: a level, a message and named fields, where durations appear as
whole milliseconds truncated to 64 bits and states in their debug spelling.
-/

namespace ResilientAgent

/-- How a guarded call ended. -/
inductive CallOutcome where
  | ok
  | failed (kind : ErrorKind)
  deriving Repr, DecidableEq, Inhabited

/-- The observable state of the loop controller. -/
inductive LoopState where
  | running (iteration : Nat)
  | awaitingTool (iteration pending : Nat)
  | done
  | failed (code : String)
  | iterationLimitReached
  deriving Repr, DecidableEq, Inhabited

/-- One report from the runtime. -/
inductive RuntimeEvent where
  /-- A call through an instrumented dependency finished. -/
  | call (dependency : String) (latency : Duration) (outcome : CallOutcome)
  /-- An attempt failed and another one is scheduled after `delay`. -/
  | retryScheduled (dependency : String) (attempt : Nat) (delay : Duration) (error : String)
  /-- The retry budget ran out. -/
  | retryExhausted (dependency : String) (attempts : Nat)
  | breakerTransition (dependency : String) (source target : CircuitState)
  /-- A call was refused because the breaker is open. -/
  | breakerRejected (dependency : String)
  /-- A caller had to wait for, or was denied, a token. -/
  | rateLimited (resource : String) (waited : Duration) (granted : Bool)
  /-- A stored result was returned instead of running the operation again. -/
  | idempotentReplay (key : String)
  /-- An optional tool failed and was replaced by an error result. -/
  | toolDegraded (tool reason : String)
  /-- The loop controller entered a new state. -/
  | loopPhase (scope : String) (state : LoopState)
  | jobTransition (jobId : String) (source : Option JobStatus) (target : JobStatus)
  /-- Expired leases were reclaimed. -/
  | leasesReaped (requeued failed : Nat)
  deriving Repr, Inhabited

/-- The debug spelling of an error kind. -/
def ErrorKind.debugText : ErrorKind → String
  | .transient => "Transient"
  | .permanent => "Permanent"
  | .cancelled => "Cancelled"

/-- The debug spelling of a breaker state. -/
def CircuitState.debugText : CircuitState → String
  | .closed => "Closed"
  | .open => "Open"
  | .halfOpen => "HalfOpen"

/-- The debug spelling of a job status. -/
def JobStatus.debugText : JobStatus → String
  | .queued => "Queued"
  | .processing => "Processing"
  | .completed => "Completed"
  | .failed => "Failed"

namespace CallOutcome

def debugText : CallOutcome → String
  | .ok => "Ok"
  | .failed k => "Failed(" ++ k.debugText ++ ")"

def toJson : CallOutcome → Json
  | .ok => .string "ok"
  | .failed k => .object [("failed", .string k.name)]

end CallOutcome

namespace LoopState

/-- The debug spelling of a loop state. -/
def debugText : LoopState → String
  | .running i => "Running \x7b iteration: " ++ toString i ++ " \x7d"
  | .awaitingTool i p => "AwaitingTool \x7b iteration: " ++ toString i ++ ", pending: " ++ toString p ++ " \x7d"
  | .done => "Done"
  | .failed code => "Failed \x7b code: " ++ Text.quoted code ++ " \x7d"
  | .iterationLimitReached => "IterationLimitReached"

/-- The record form of a loop state. -/
def toJson : LoopState → Json
  | .running i => .object [("running", .object [("iteration", Json.nat i)])]
  | .awaitingTool i p =>
    .object [("awaiting_tool", .object [("iteration", Json.nat i), ("pending", Json.nat p)])]
  | .done => .string "done"
  | .failed code => .object [("failed", .object [("code", .string code)])]
  | .iterationLimitReached => .string "iteration_limit_reached"

end LoopState

/-- How loud a log line is. -/
inductive LogLevel where
  | debug
  | info
  | warn
  deriving Repr, DecidableEq, Inhabited

/-- The upper-case name of a level. -/
def LogLevel.name : LogLevel → String
  | .debug => "DEBUG"
  | .info => "INFO"
  | .warn => "WARN"

/-- One structured log line. -/
structure LogRecord where
  level : LogLevel
  message : String
  fields : List (String × Json)
  deriving Inhabited

def LogRecord.toJson (r : LogRecord) : Json :=
  .object [("level", .string r.level.name), ("message", .string r.message),
    ("fields", .array (r.fields.map fun (k, v) => .array [.string k, v]))]

/-- The text of a field's value in a log line: a string as it is, anything else as JSON. -/
def LogRecord.fieldText : Json → String
  | .string s => s
  | v => v.render

/-- The part of the program a log line comes from. -/
inductive LogSource where
  /-- The daemon itself: listening, shutting down. -/
  | daemon
  /-- The worker pool and its workers. -/
  | worker
  /-- The agent loop. -/
  | agent
  /-- The log form of runtime events, and the span of a dependency call. -/
  | events
  /-- The database store. -/
  | store
  /-- The chat-completions client. -/
  | provider
  deriving DecidableEq, Inhabited

/-- The name a log line is filed under, which log filters select by: the daemon's own name, or
the path of the library part that wrote it. -/
def LogSource.target : LogSource → String
  | .daemon => "agentd"
  | .worker => "tower_agent_runtime::worker"
  | .agent => "tower_agent_runtime::agent"
  | .events => "tower_agent_runtime::observability"
  | .store => "tower_agent_runtime::sqlite"
  | .provider => "tower_agent_runtime::provider"

/-- A span that log lines are written in: its name, the part of the program that opened it,
and its fields with their values as text. -/
structure LogSpan where
  name : String
  source : LogSource
  fields : List (String × String)
  deriving Inhabited

/-- The text of a span: its name, then its fields as `name=value` in braces when it has any. -/
def LogSpan.text (s : LogSpan) : String :=
  if s.fields.isEmpty then s.name
  else s.name ++ "\x7b" ++ " ".intercalate (s.fields.map fun (k, v) => k ++ "=" ++ v) ++ "\x7d"

/-- A log line as written: the spans it was written in, outermost first, where it comes from,
and its record. -/
structure LogLine where
  spans : List LogSpan
  source : LogSource
  record : LogRecord
  deriving Inhabited

/-- The text of a log line: the level, each span followed by a colon and, after any spans, a
blank, then the message and each field as `name=value`. -/
def LogLine.text (l : LogLine) : String :=
  let spans := String.join (l.spans.map (·.text ++ ":"))
  l.record.level.name ++ " " ++ (if l.spans.isEmpty then "" else spans ++ " ") ++ l.record.message ++
    String.join (l.record.fields.map fun (k, v) => " " ++ k ++ "=" ++ LogRecord.fieldText v)

def Duration.pairJson (d : Duration) : Json := .array [Json.nat d.secs, Json.nat d.subsecNanos]

def Duration.logMillis (d : Duration) : Json := Json.nat ((d.toNanos / 1000000) % Nat.pow 2 64)

namespace RuntimeEvent

/-- The record form of an event; `timed` is false when waits are not measured in scripted
time, and the waits of rate-limit events are then `null`. -/
def toJson (timed : Bool) : RuntimeEvent → Json
  | .call dep _ outcome =>
    .object [("event", .string "call"), ("dependency", .string dep), ("outcome", outcome.toJson)]
  | .retryScheduled dep attempt delay error =>
    .object [("event", .string "retry_scheduled"), ("dependency", .string dep),
      ("attempt", Json.nat attempt), ("delay", delay.pairJson), ("error", .string error)]
  | .retryExhausted dep attempts =>
    .object [("event", .string "retry_exhausted"), ("dependency", .string dep),
      ("attempts", Json.nat attempts)]
  | .breakerTransition dep source target =>
    .object [("event", .string "breaker_transition"), ("dependency", .string dep),
      ("from", .string source.name), ("to", .string target.name)]
  | .breakerRejected dep => .object [("event", .string "breaker_rejected"), ("dependency", .string dep)]
  | .rateLimited resource waited granted =>
    .object [("event", .string "rate_limited"), ("resource", .string resource),
      ("waited", if timed then waited.pairJson else .null), ("granted", .bool granted)]
  | .idempotentReplay key => .object [("event", .string "idempotent_replay"), ("key", .string key)]
  | .toolDegraded tool reason =>
    .object [("event", .string "tool_degraded"), ("tool", .string tool), ("reason", .string reason)]
  | .loopPhase scope state =>
    .object [("event", .string "loop_phase"), ("scope", .string scope), ("state", state.toJson)]
  | .jobTransition job source target =>
    .object [("event", .string "job_transition"), ("job_id", .string job),
      ("from", Json.opt (fun s => .string s.name) source), ("to", .string target.name)]
  | .leasesReaped requeued failed =>
    .object [("event", .string "leases_reaped"), ("requeued", Json.nat requeued),
      ("failed", Json.nat failed)]

/-- The log line of an event. -/
def logRecord : RuntimeEvent → LogRecord
  | .call dep latency outcome =>
    ⟨.debug, "call finished", [("dependency", .string dep), ("latency_ms", latency.logMillis),
      ("outcome", .string outcome.debugText)]⟩
  | .retryScheduled dep attempt delay error =>
    ⟨.warn, "retrying", [("dependency", .string dep), ("attempt", Json.nat attempt),
      ("delay_ms", delay.logMillis), ("error", .string error)]⟩
  | .retryExhausted dep attempts =>
    ⟨.warn, "retries exhausted", [("dependency", .string dep), ("attempts", Json.nat attempts)]⟩
  | .breakerTransition dep source target =>
    ⟨.warn, "circuit breaker transition", [("dependency", .string dep),
      ("from", .string source.debugText), ("to", .string target.debugText)]⟩
  | .breakerRejected dep => ⟨.debug, "circuit open, call rejected", [("dependency", .string dep)]⟩
  | .rateLimited resource waited granted =>
    ⟨.debug, "rate limited", [("resource", .string resource), ("waited_ms", waited.logMillis),
      ("granted", .bool granted)]⟩
  | .idempotentReplay key => ⟨.debug, "idempotent replay", [("key", .string key)]⟩
  | .toolDegraded tool reason =>
    ⟨.warn, "optional tool degraded", [("tool", .string tool), ("reason", .string reason)]⟩
  | .loopPhase scope state =>
    ⟨.debug, "loop state", [("scope", .string scope), ("state", .string state.debugText)]⟩
  | .jobTransition job source target =>
    let sourceText := match source with
      | some s => "Some(" ++ s.debugText ++ ")"
      | none => "None"
    ⟨.info, "job transition", [("job_id", .string job), ("from", .string sourceText),
      ("to", .string target.debugText)]⟩
  | .leasesReaped requeued failed =>
    ⟨.info, "expired leases reaped", [("requeued", Json.nat requeued), ("failed", Json.nat failed)]⟩

def isFailedCall : RuntimeEvent → Bool
  | .call _ _ (.failed _) => true
  | _ => false

def isJobTransition : RuntimeEvent → Bool
  | .jobTransition .. => true
  | _ => false

end RuntimeEvent

end ResilientAgent
