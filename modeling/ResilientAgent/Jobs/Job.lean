import ResilientAgent.Agent.Run
import ResilientAgent.Error
import ResilientAgent.Time.Instant
import ResilientAgent.Text.Blank

/-!
# Jobs

A job is one user message waiting for, or given to, a worker. It moves from `queued` to
`processing` when a worker leases it, and from there to `completed` or `failed`; a lease that
expires sends it back to `queued` while deliveries remain. Jobs carry a priority from 0 to 9,
higher first, 1 by default.
-/

namespace ResilientAgent

/-- The urgency of a job, `0 … 9`, higher first. -/
structure Priority where
  level : Nat
  level_le : level ≤ 9
  deriving DecidableEq

namespace Priority

instance : Inhabited Priority := ⟨⟨1, by decide⟩⟩

def default : Priority := ⟨1, by decide⟩

def rangeMessage : String := "priority must be between 0 and 9"

def new (level : Nat) : Except AgentError Priority :=
  if h : level ≤ 9 then .ok ⟨level, h⟩ else .error (.invalidRequest rangeMessage)

def allDescending : List Priority :=
  (List.range 10).reverse.filterMap fun l => (Priority.new l).toOption

def decode : Decoder Priority :=
  Node.refine Node.u8 fun l => (Priority.new l).mapError AgentError.display

end Priority

/-- Where a job stands. -/
inductive JobStatus where
  | queued
  | processing
  | completed
  | failed
  deriving Repr, DecidableEq, Inhabited

namespace JobStatus

/-- The name of a status. -/
def name : JobStatus → String
  | .queued => "queued"
  | .processing => "processing"
  | .completed => "completed"
  | .failed => "failed"

def isTerminal : JobStatus → Bool
  | .completed | .failed => true
  | _ => false

/-- A status by its exact name; any other text is unreadable storage. -/
def ofName (text : String) : Except AgentError JobStatus :=
  match text with
  | "queued" => .ok .queued
  | "processing" => .ok .processing
  | "completed" => .ok .completed
  | "failed" => .ok .failed
  | other => .error (.storage ("unknown job status '" ++ other ++ "'"))

end JobStatus

/-- What a completed job produced. -/
structure JobResult where
  response : String
  outcome : RunOutcome
  iterations : Nat
  usage : Usage
  degradedTools : List String := []
  deriving Inhabited

def JobResult.ofRun (r : AgentRun) : JobResult :=
  ⟨r.response, r.outcome, r.iterations, r.usage, r.degradedTools⟩

/-- A worker's time-bounded claim on a job. -/
structure Lease where
  jobId : String
  workerId : String
  /-- The delivery this lease belongs to. -/
  attempt : Nat
  expiresAt : Instant
  /-- The extension each renewal grants. -/
  ttl : Duration
  deriving Inhabited, DecidableEq

/-- A job and where it stands. -/
structure Job where
  jobId : String
  userId : String
  message : String
  priority : Priority
  status : JobStatus
  /-- Deliveries so far. -/
  attempts : Nat
  submittedAt : Instant
  startedAt : Option Instant := none
  completedAt : Option Instant := none
  leaseOwner : Option String := none
  leaseExpiresAt : Option Instant := none
  result : Option JobResult := none
  error : Option JobFailure := none
  deriving Inhabited

/-- Whether a job is held under a lease: processing, by the lease's worker, in its delivery. -/
def Job.holds (j : Job) (l : Lease) : Bool :=
  j.status == .processing && j.leaseOwner == some l.workerId && j.attempts == l.attempt

/-- A submission. -/
structure NewJob where
  userId : String
  message : String
  priority : Priority := Priority.default
  deriving Inhabited

/-- A submission must name a user and carry a message. -/
def NewJob.validate (j : NewJob) : Except AgentError Unit :=
  if Text.isBlankText j.userId then .error (.invalidRequest "user_id must not be empty")
  else if Text.isBlankText j.message then .error (.invalidRequest "message must not be empty")
  else .ok ()

/-- What one reaper pass did: the jobs sent back to the queue and the jobs failed. -/
structure ReapReport where
  requeued : List String := []
  failed : List String := []
  deriving Inhabited

def ReapReport.isEmpty (r : ReapReport) : Bool := r.requeued.isEmpty && r.failed.isEmpty

def pollLevels (priorities : List Priority) : List Priority :=
  if priorities.isEmpty then Priority.allDescending else priorities

/-! ## JSON forms -/

/-- The JSON form of a job result; no `degraded_tools` when there are none. -/
def JobResult.toJson (r : JobResult) : Json :=
  .object ([("response", Json.string r.response), ("outcome", .string r.outcome.name),
    ("iterations", Json.nat r.iterations), ("usage", r.usage.toJson)] ++
    (if r.degradedTools.isEmpty then []
     else [("degraded_tools", .array (r.degradedTools.map Json.string))]))

def JobFailure.toJson (f : JobFailure) : Json :=
  .object [("code", .string f.code), ("message", .string f.message), ("detail", .string f.detail)]

/-- The JSON form of a lease; the renewal extension is written in float seconds. -/
def Lease.toJson (l : Lease) : Json :=
  .object [("job_id", .string l.jobId), ("worker_id", .string l.workerId),
    ("attempt", Json.nat l.attempt), ("expires_at", .string l.expiresAt.rfc3339),
    ("ttl", Json.float l.ttl.toSecsFloat)]

/-- The JSON form of a job. -/
def Job.toJson (j : Job) : Json :=
  let instant (t : Instant) : Json := .string t.rfc3339
  .object [("job_id", .string j.jobId), ("user_id", .string j.userId),
    ("message", .string j.message), ("priority", Json.nat j.priority.level),
    ("status", .string j.status.name), ("attempts", Json.nat j.attempts),
    ("submitted_at", instant j.submittedAt), ("started_at", Json.opt instant j.startedAt),
    ("completed_at", Json.opt instant j.completedAt),
    ("lease_owner", Json.opt Json.string j.leaseOwner),
    ("lease_expires_at", Json.opt instant j.leaseExpiresAt),
    ("result", Json.opt JobResult.toJson j.result), ("error", Json.opt JobFailure.toJson j.error)]

/-! ## Reading -/

/-- A job result: all but `degraded_tools` required. -/
def JobResult.decode : Decoder JobResult := fun n => do
  let ms ← n.recordOrItems "struct JobResult"
    [Node.field "response" Node.string, Node.field "outcome" RunOutcome.decode,
     Node.field "iterations" Node.usize, Node.field "usage" Usage.decode,
     Node.field "degraded_tools" (Node.list Node.string)]
    ["response", "outcome", "iterations", "usage"]
  return { response := Members.getD ms "response" Node.string ""
           outcome := Members.getD ms "outcome" RunOutcome.decode .done
           iterations := Members.getD ms "iterations" Node.usize 0
           usage := Members.getD ms "usage" Usage.decode {}
           degradedTools := Members.getD ms "degraded_tools" (Node.list Node.string) [] }

/-- A submission: `user_id` and `message` required, `priority` 1 when absent. -/
def NewJob.decode : Decoder NewJob := fun n => do
  let ms ← n.recordOrItems "struct NewJob"
    [Node.field "user_id" Node.string, Node.field "message" Node.string,
     Node.field "priority" Priority.decode]
    ["user_id", "message"]
  return { userId := Members.getD ms "user_id" Node.string ""
           message := Members.getD ms "message" Node.string ""
           priority := Members.getD ms "priority" Priority.decode Priority.default }

end ResilientAgent
