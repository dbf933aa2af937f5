import ResilientAgent.Json.Parse
import ResilientAgent.Time.Duration

/-!
# Failures

Every failure carries a kind that decides what the retry layer, the breaker and the loop do
with it: a *transient* failure may pass on retry, a *permanent* one will not, and a
*cancelled* one says nothing about the dependency.

`AgentError` is the closed set of failures the runtime raises itself. A `Fault` is any failure
a service may hand back: a runtime error, a tool's error, an elapsed timer, a JSON fault or a
bare message. The kind of a fault is read off its cause; a bare message, an elapsed timer and a
failed read under JSON count as transient, a fault in JSON itself as permanent.
-/

namespace ResilientAgent

/-- What a failure means for retrying. -/
inductive ErrorKind where
  | transient
  | permanent
  | cancelled
  deriving Repr, DecidableEq, Inhabited

def ErrorKind.isRetryable : ErrorKind → Bool
  | .transient => true
  | _ => false

/-- The lower-case name of a kind. -/
def ErrorKind.name : ErrorKind → String
  | .transient => "transient"
  | .permanent => "permanent"
  | .cancelled => "cancelled"

/-- Which of the three nested time bounds expired. -/
inductive TimeoutScope where
  | tool
  | modelCall
  | request
  deriving Repr, DecidableEq, Inhabited

/-- The scope as it reads in a message. -/
def TimeoutScope.label : TimeoutScope → String
  | .tool => "tool"
  | .modelCall => "model call"
  | .request => "request"

/-- The scope's name in data. -/
def TimeoutScope.name : TimeoutScope → String
  | .tool => "tool"
  | .modelCall => "model_call"
  | .request => "request"

/-- The scope with a given data name. -/
def TimeoutScope.ofName? : String → Option TimeoutScope
  | "tool" => some .tool
  | "model_call" => some .modelCall
  | "request" => some .request
  | _ => none

/-- The failure classes a tool reports. -/
inductive ToolErrorClass where
  | timeout
  | validation
  | transient
  | permanent
  deriving Repr, DecidableEq, Inhabited

/-- The class's name. -/
def ToolErrorClass.name : ToolErrorClass → String
  | .timeout => "timeout"
  | .validation => "validation"
  | .transient => "transient"
  | .permanent => "permanent"

/-- The class with a given name. -/
def ToolErrorClass.ofName? : String → Option ToolErrorClass
  | "timeout" => some .timeout
  | "validation" => some .validation
  | "transient" => some .transient
  | "permanent" => some .permanent
  | _ => none

/-- An error raised by a tool handler. -/
structure ToolError where
  errorClass : ToolErrorClass
  message : String
  deriving Repr, DecidableEq, Inhabited

namespace ToolError

def timeout (message : String) : ToolError := ⟨.timeout, message⟩

def validation (message : String) : ToolError := ⟨.validation, message⟩

def transient (message : String) : ToolError := ⟨.transient, message⟩

def permanent (message : String) : ToolError := ⟨.permanent, message⟩

/-- Timeouts and transient failures are transient; refused arguments are permanent. -/
def kind (e : ToolError) : ErrorKind :=
  match e.errorClass with
  | .timeout | .transient => .transient
  | .validation | .permanent => .permanent

def display (e : ToolError) : String := e.errorClass.name ++ " error: " ++ e.message

end ToolError

mutual

/-- The failures the runtime raises. -/
inductive AgentError where
  /-- A dependency failed in a way that may pass on retry. -/
  | transient (dependency message : String)
  /-- A dependency refused the request; retrying will not help. -/
  | permanent (dependency message : String)
  /-- One of the nested time bounds expired. -/
  | timeout (scope : TimeoutScope) (after : Duration)
  /-- The dependency's breaker is open; no call was made. -/
  | circuitOpen (dependency : String) (retryIn : Duration)
  /-- No token came within the allowed wait. -/
  | rateLimited (resource : String)
  /-- The retry budget ran out; the last failure is kept. -/
  | retryExhausted (dependency : String) (attempts : Nat) (source : Fault)
  /-- A tool failed outside the model's control. -/
  | tool (tool : String) (source : Fault)
  /-- A critical tool failed and the run cannot go on. -/
  | criticalTool (tool : String) (source : Fault)
  /-- The model answered with something the loop cannot act on. -/
  | modelBehavior (message : String)
  /-- The request was cancelled from outside. -/
  | cancelled
  /-- Configuration refused at load or validation. -/
  | config (message : String)
  /-- The tool registry refused a definition. -/
  | registration (message : String)
  /-- The job is unknown or past its retention. -/
  | jobNotFound (jobId : String)
  /-- Too many queued jobs. -/
  | queueFull (depth : Nat)
  /-- A worker settled a job it no longer holds. -/
  | leaseLost (jobId workerId : String)
  /-- The job's lease expired more often than its delivery budget allows. -/
  | leaseExpired (jobId : String) (attempts : Nat)
  /-- A request refused before it was queued. -/
  | invalidRequest (message : String)
  /-- Storage returned something unreadable. -/
  | storage (message : String)
  /-- JSON that could not be read or written. -/
  | serialization (error : JsonError)
  /-- An input or output failure. -/
  | io (message : String)
  /-- A database failure. -/
  | database (message : String)

/-- Any failure a service may hand back. -/
inductive Fault where
  | agent (error : AgentError)
  | tool (error : ToolError)
  /-- A timer that expired around a call. -/
  | elapsed
  | json (error : JsonError)
  | plain (message : String)

end

mutual

/-- The kind of a runtime error; a tool failure takes the kind of its cause. -/
def AgentError.kind : AgentError → ErrorKind
  | .transient .. | .circuitOpen .. | .rateLimited .. | .retryExhausted .. | .queueFull ..
  | .io .. | .database .. => .transient
  | .timeout scope _ => if scope == .request then .cancelled else .transient
  | .tool _ source => source.kind
  | .cancelled => .cancelled
  | .permanent .. | .criticalTool .. | .modelBehavior .. | .config .. | .registration ..
  | .jobNotFound .. | .leaseLost .. | .leaseExpired .. | .invalidRequest .. | .storage ..
  | .serialization .. => .permanent

/-- The kind of a fault, read off its cause. -/
def Fault.kind : Fault → ErrorKind
  | .agent e => e.kind
  | .tool e => e.kind
  | .elapsed => .transient
  | .json e => if e.fromIo then .transient else .permanent
  | .plain _ => .transient

end

mutual

/-- The message of a runtime error. -/
def AgentError.display : AgentError → String
  | .transient dependency message => dependency ++ " failed: " ++ message
  | .permanent dependency message => dependency ++ " rejected the request: " ++ message
  | .timeout scope after => scope.label ++ " timed out after " ++ after.debugText
  | .circuitOpen dependency retryIn =>
    "circuit '" ++ dependency ++ "' is open, retry in " ++ retryIn.debugText
  | .rateLimited resource => "rate limit exhausted for '" ++ resource ++ "'"
  | .retryExhausted dependency attempts source =>
    "'" ++ dependency ++ "' failed after " ++ toString attempts ++ " attempts: " ++ source.display
  | .tool tool source => "tool '" ++ tool ++ "' failed: " ++ source.display
  | .criticalTool tool source => "critical tool '" ++ tool ++ "' failed: " ++ source.display
  | .modelBehavior message => "invalid model response: " ++ message
  | .cancelled => "request cancelled"
  | .config message => "invalid configuration: " ++ message
  | .registration message => "invalid tool registration: " ++ message
  | .jobNotFound jobId => "job " ++ jobId ++ " not found"
  | .queueFull depth => "queue is full (" ++ toString depth ++ " jobs waiting)"
  | .leaseLost jobId workerId => "lease on job " ++ jobId ++ " is no longer held by " ++ workerId
  | .leaseExpired jobId attempts =>
    "job " ++ jobId ++ " abandoned after " ++ toString attempts ++ " expired leases"
  | .invalidRequest message => "invalid request: " ++ message
  | .storage message => "storage error: " ++ message
  | .serialization error => "serialization error: " ++ error.message
  | .io message => "IO error: " ++ message
  | .database message => "database error: " ++ message

/-- The message of a fault. -/
def Fault.display : Fault → String
  | .agent e => e.display
  | .tool e => e.display
  | .elapsed => "request timed out"
  | .json e => e.message
  | .plain message => message

end

namespace AgentError

/-- The stable machine-readable code stored on failed jobs. -/
def code : AgentError → String
  | .transient .. => "transient_error"
  | .permanent .. => "permanent_error"
  | .timeout .. => "timeout"
  | .circuitOpen .. => "circuit_open"
  | .rateLimited .. => "rate_limited"
  | .retryExhausted .. => "retry_exhausted"
  | .tool .. => "tool_error"
  | .criticalTool .. => "critical_tool_failed"
  | .modelBehavior .. => "invalid_model_response"
  | .cancelled => "cancelled"
  | .config .. => "invalid_config"
  | .registration .. => "invalid_registration"
  | .jobNotFound .. => "job_not_found"
  | .queueFull .. => "queue_full"
  | .leaseLost .. => "lease_lost"
  | .leaseExpired .. => "lease_expired"
  | .invalidRequest .. => "invalid_request"
  | .storage .. | .serialization .. | .io .. | .database .. => "internal"

/-- Text safe to show an end user: it names no dependency and no payload. -/
def userMessage : AgentError → String
  | .timeout .. => "The request took too long to process. Please try again."
  | .circuitOpen .. | .rateLimited .. | .retryExhausted .. | .transient .. | .queueFull .. =>
    "The service is temporarily unavailable. Please try again shortly."
  | .cancelled => "The request was cancelled."
  | .invalidRequest .. => "The request was invalid."
  | _ => "The request could not be completed."

/-- The runtime error a fault stands for: a runtime error as it is, any other fault as a
transient or permanent failure of `dependency` (or a cancellation) by its kind. -/
def ofFault (fault : Fault) (dependency : String) : AgentError :=
  match fault with
  | .agent e => e
  | other =>
    match other.kind with
    | .permanent => .permanent dependency other.display
    | .cancelled => .cancelled
    | .transient => .transient dependency other.display

end AgentError

/-- How an admitted call ended, for the breaker: a permanent failure proves the dependency
answered, a cancelled one says nothing. -/
inductive CallResult where
  | success
  | failure
  | ignored
  deriving Repr, DecidableEq, Inhabited

/-- The breaker's reading of a failed call. -/
def CallResult.ofFault (fault : Fault) : CallResult :=
  match fault.kind with
  | .transient => .failure
  | .permanent => .success
  | .cancelled => .ignored

/-- The lower-case name of a call result. -/
def CallResult.name : CallResult → String
  | .success => "success"
  | .failure => "failure"
  | .ignored => "ignored"

/-- A failure as stored on a job: code, user message and full message. -/
structure JobFailure where
  code : String
  message : String
  detail : String
  deriving Repr, DecidableEq, Inhabited

def JobFailure.ofError (e : AgentError) : JobFailure := ⟨e.code, e.userMessage, e.display⟩

end ResilientAgent
