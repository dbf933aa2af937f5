import ResilientAgent.Error
import ResilientAgent.Scenario.Codec

/-!
# Failures in scenarios

A scenario names a failure by its `type` and fields, and a report shows a failure as an object
with its message, kind and, for runtime errors, code, user message and cause. Each runtime
error is shown under the name of its case (`RetryExhausted`, `CircuitOpen`, …).
-/

namespace ResilientAgent

namespace Scenario

mutual

def agentError? (j : Json) : Option AgentError := do
  let kind ← j.read "type" Json.str?
  match kind with
  | "transient" => return .transient (← j.textOr "dependency") (← j.textOr "message")
  | "permanent" => return .permanent (← j.textOr "dependency") (← j.textOr "message")
  | "timeout" =>
    let scope ← j.read "scope" fun s => s.str?.bind TimeoutScope.ofName?
    return .timeout scope (← j.read "after" duration?)
  | "circuit_open" => return .circuitOpen (← j.textOr "dependency") (← j.read "retry_in" duration?)
  | "rate_limited" => return .rateLimited (← j.textOr "resource")
  | "retry_exhausted" =>
    let dependency ← j.textOr "dependency"
    let attempts ← j.read "attempts" Json.u64?
    match _found : j.get? "source" with
    | some s => return .retryExhausted dependency attempts (← fault? s)
    | none => none
  | "tool" =>
    let tool ← j.textOr "tool"
    match _found : j.get? "source" with
    | some s => return .tool tool (← fault? s)
    | none => none
  | "critical_tool" =>
    let tool ← j.textOr "tool"
    match _found : j.get? "source" with
    | some s => return .criticalTool tool (← fault? s)
    | none => none
  | "model_behavior" => return .modelBehavior (← j.textOr "message")
  | "config" => return .config (← j.textOr "message")
  | "registration" => return .registration (← j.textOr "message")
  | "invalid_request" => return .invalidRequest (← j.textOr "message")
  | "storage" => return .storage (← j.textOr "message")
  | "cancelled" => return .cancelled
  | "job_not_found" => return .jobNotFound (← j.textOr "job_id")
  | "queue_full" => return .queueFull (← j.read "depth" Json.u64?)
  | "lease_lost" => return .leaseLost (← j.textOr "job_id") (← j.textOr "worker_id")
  | "lease_expired" => return .leaseExpired (← j.textOr "job_id") (← j.read "attempts" Json.u32?)
  | "serialization" =>
    match Json.parse (← j.textOr "text") with
    | .error e => return .serialization e
    | .ok _ => none
  | "io" => return .io (← j.textOr "message")
  | _ => none
termination_by 2 * sizeOf j
decreasing_by all_goals have := Json.sizeOf_lt_of_get? _found; omega

/-- A fault from its description: any runtime error, or a tool error, a bare message, an
elapsed timer or a JSON fault. -/
def fault? (j : Json) : Option Fault := do
  let kind ← j.read "type" Json.str?
  match kind with
  | "tool_error" =>
    let errorClass ← j.read "class" fun c => c.str?.bind ToolErrorClass.ofName?
    return .tool ⟨errorClass, ← j.textOr "message"⟩
  | "plain" => return .plain (← j.textOr "message")
  | "elapsed" => return .elapsed
  | "json_error" =>
    match Json.parse (← j.textOr "text") with
    | .error e => return .json e
    | .ok _ => none
  | "json_io_error" => return .json { reason := ← j.textOr "message", fromIo := true }
  | _ => return .agent (← agentError? j)
termination_by 2 * sizeOf j + 1

end

def AgentError.caseName : AgentError → String
  | .transient .. => "Transient"
  | .permanent .. => "Permanent"
  | .timeout .. => "Timeout"
  | .circuitOpen .. => "CircuitOpen"
  | .rateLimited .. => "RateLimited"
  | .retryExhausted .. => "RetryExhausted"
  | .tool .. => "Tool"
  | .criticalTool .. => "CriticalTool"
  | .modelBehavior .. => "ModelBehavior"
  | .cancelled => "Cancelled"
  | .config .. => "Config"
  | .registration .. => "Registration"
  | .jobNotFound .. => "JobNotFound"
  | .queueFull .. => "QueueFull"
  | .leaseLost .. => "LeaseLost"
  | .leaseExpired .. => "LeaseExpired"
  | .invalidRequest .. => "InvalidRequest"
  | .storage .. => "Storage"
  | .serialization .. => "Serialization"
  | .io .. => "Io"
  | .database .. => "Database"

def toolErrorJson (e : ToolError) : Json :=
  Json.obj [("type", .string "tool_error"), ("class", .string e.errorClass.name),
    ("message", .string e.message), ("display", .string e.display),
    ("kind", .string e.kind.name)]

mutual

def agentErrorJson (e : AgentError) : Json :=
  let base := [("type", Json.string "agent"), ("variant", .string (AgentError.caseName e)),
    ("display", .string e.display), ("code", .string e.code), ("kind", .string e.kind.name),
    ("user_message", .string e.userMessage)]
  match e with
  | .retryExhausted _ _ source | .tool _ source | .criticalTool _ source =>
    Json.obj (base ++ [("source", faultJson source)])
  | _ => Json.obj base

def faultJson : Fault → Json
  | .agent e => agentErrorJson e
  | .tool e => toolErrorJson e
  | other => Json.obj [("type", .string "other"), ("display", .string other.display),
      ("kind", .string other.kind.name)]

end

def jobFailureJson (f : JobFailure) : Json :=
  Json.obj [("code", .string f.code), ("message", .string f.message), ("detail", .string f.detail)]

def errorInfo (request : Json) : Option Json :=
  (request.read "error" agentError?).map agentErrorJson

def classifyFault (request : Json) : Option Json := do
  let fault ← request.read "error" fault?
  return Json.obj [("kind", .string fault.kind.name), ("retryable", .bool fault.kind.isRetryable),
    ("call_result", .string (CallResult.ofFault fault).name), ("error", faultJson fault)]

def errorOfFault (request : Json) : Option Json := do
  let fault ← request.read "error" fault?
  let dependency ← request.textOr "dependency"
  return agentErrorJson (AgentError.ofFault fault dependency)

def toolErrorOf (request : Json) : Option Json := do
  let message ← request.textOr "message"
  let ctor ← request.read "ctor" Json.str?
  let errorClass ← match ctor with
    | "new" => request.read "class" fun c => c.str?.bind ToolErrorClass.ofName?
    | other => ToolErrorClass.ofName? other
  return toolErrorJson ⟨errorClass, message⟩

def jobFailureOf (request : Json) : Option Json :=
  (request.read "error" agentError?).map fun e => jobFailureJson (JobFailure.ofError e)

end Scenario

end ResilientAgent
