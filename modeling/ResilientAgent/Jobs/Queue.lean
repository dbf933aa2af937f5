import ResilientAgent.Jobs.Job
import ResilientAgent.Config.Basic
import ResilientAgent.Store.Backend

/-!
# The job queue

A table of jobs in the order they were submitted, with the operations of a priority queue
with leases. A worker takes the oldest queued job of the most urgent level it polls; with
per-user serialisation, never a job of a user who already has one in progress. A lease runs
out at a deadline; renewing it pushes the deadline out by its extension, and only the holder
of the current delivery may renew, complete or fail the job. The reaper sends jobs with a
lapsed lease back to the queue while deliveries remain and fails them after that; terminal
jobs leave the table once their retention has passed.

A database keeps every instant in whole milliseconds, and reports a refused lease by what it
finds after the fact; it also counts retention in whole milliseconds, subtracting it from the
clock's in signed 64-bit arithmetic.
-/

namespace ResilientAgent

/-- A job and its place in submission order. -/
structure Slot where
  seq : Nat
  job : Job
  deriving Inhabited

/-- Whether a job's lease has lapsed by `now`. -/
def Slot.lapsed (s : Slot) (now : Instant) : Bool :=
  s.job.status == .processing &&
    match s.job.leaseExpiresAt with
    | some at_ => at_.sinceEpoch ≤ now.sinceEpoch
    | none => false

/-- Whether a terminal job's retention has passed by `now`. In memory the retention is added
to the completion instant; a database compares whole milliseconds with its cutoff. -/
def Slot.expired (s : Slot) (config : QueueConfig) (b : Backend) (now : Instant) : Bool :=
  s.job.status.isTerminal &&
    match s.job.completedAt with
    | none => false
    | some at_ =>
      match b with
      | .memory => (at_.add config.retention).sinceEpoch ≤ now.sinceEpoch
      | .database => at_.millis ≤ now.millisBefore config.retention

/-- The jobs of a queue, in submission order, and how many were ever submitted. -/
structure JobTable where
  slots : List Slot := []
  submitted : Nat := 0
  deriving Inhabited

def jobLabel (n : Nat) : String := "job-" ++ toString n

namespace JobTable

def find? (t : JobTable) (jobId : String) : Option Job :=
  (t.slots.find? (·.job.jobId == jobId)).map (·.job)

def update (t : JobTable) (jobId : String) (f : Job → Job) : JobTable :=
  { t with slots := t.slots.map fun s => if s.job.jobId == jobId then { s with job := f s.job } else s }

def depth (t : JobTable) : Nat := (t.slots.filter (·.job.status == .queued)).length

def busyUsers (t : JobTable) : List String :=
  (t.slots.filter (·.job.status == .processing)).map (·.job.userId)

/-- Stores a new queued job, unless the queue is full. -/
def enqueue (t : JobTable) (config : QueueConfig) (b : Backend) (now : Instant) (new : NewJob) :
    Except AgentError (Job × JobTable) := do
  new.validate
  let depth := t.depth
  if depth ≥ config.maxQueueDepth then throw (.queueFull depth)
  let job : Job :=
    { jobId := jobLabel (t.submitted + 1), userId := new.userId, message := new.message,
      priority := new.priority, status := .queued, attempts := 0, submittedAt := b.stamp now }
  return (job, { slots := t.slots ++ [⟨t.submitted, job⟩], submitted := t.submitted + 1 })

/-- A job under a fresh lease to `workerId` for `ttl`: one more delivery, started now. -/
def grant (job : Job) (b : Backend) (workerId : String) (ttl : Duration) (now : Instant) :
    Job × Lease :=
  let now := b.stamp now
  let expiresAt := b.stamp (now.add ttl)
  let job := { job with status := .processing, attempts := job.attempts + 1, startedAt := some now,
                        leaseOwner := some workerId, leaseExpiresAt := some expiresAt }
  (job, ⟨job.jobId, workerId, job.attempts, expiresAt, ttl⟩)

def oldestAt (t : JobTable) (busy : List String) (level : Priority) : Option Job :=
  (t.slots.find? fun s => s.job.status == .queued && s.job.priority == level &&
    !busy.contains s.job.userId).map (·.job)

/-- Leases the oldest job of the first level in `priorities` (every level, most urgent first,
when empty) that has one. -/
def dequeue (t : JobTable) (config : QueueConfig) (b : Backend) (now : Instant)
    (priorities : List Priority) (workerId : String) : Option (Job × Lease) × JobTable :=
  let busy := if config.serializePerUser then t.busyUsers else []
  match (pollLevels priorities).findSome? (t.oldestAt busy) with
  | none => (none, t)
  | some job =>
    let (job, lease) := grant job b workerId config.leaseTtl now
    (some (job, lease), t.update job.jobId fun _ => job)

def notQueued (jobId : String) (status : JobStatus) : AgentError :=
  .invalidRequest ("job " ++ jobId ++ " is " ++ status.name ++ ", not queued")

def userBusy (userId : String) : AgentError :=
  .invalidRequest ("user " ++ userId ++ " already has a job in progress")

/-- Leases the named job to `workerId` for `ttl`. In memory a busy user is refused before the
job's own status is looked at; a database refuses first and then reports a job that is not
queued before a busy user. -/
def lease (t : JobTable) (config : QueueConfig) (b : Backend) (now : Instant) (jobId workerId : String)
    (ttl : Duration) : Except AgentError (Lease × JobTable) := do
  let some job := t.find? jobId | throw (.jobNotFound jobId)
  let busy := config.serializePerUser && t.busyUsers.contains job.userId
  match b with
  | .memory =>
    if busy then throw (userBusy job.userId)
    if job.status != .queued then throw (notQueued jobId job.status)
  | .database =>
    if job.status != .queued then throw (notQueued jobId job.status)
    if busy then throw (userBusy job.userId)
  let (job, lease) := grant job b workerId ttl now
  return (lease, t.update jobId fun _ => job)

/-- The failure for a lease its job no longer honours: lost if the job is still there, not
found otherwise. -/
def lostOrMissing (t : JobTable) (l : Lease) : AgentError :=
  match t.find? l.jobId with
  | some _ => .leaseLost l.jobId l.workerId
  | none => .jobNotFound l.jobId

/-- Pushes the lease's deadline out by its extension, from now. A database stores the new
deadline in whole milliseconds but hands back the exact one. -/
def renew (t : JobTable) (b : Backend) (now : Instant) (l : Lease) :
    Except AgentError (Lease × JobTable) :=
  match t.find? l.jobId with
  | some job =>
    if job.holds l then
      let expiresAt := (b.stamp now).add l.ttl
      .ok ({ l with expiresAt }, t.update l.jobId fun j => { j with leaseExpiresAt := some (b.stamp expiresAt) })
    else .error (t.lostOrMissing l)
  | none => .error (.jobNotFound l.jobId)

/-- Ends a held job with `status`, its result or failure, now. -/
def settle (t : JobTable) (b : Backend) (now : Instant) (l : Lease) (status : JobStatus)
    (result : Option JobResult) (error : Option JobFailure) : Except AgentError (Job × JobTable) :=
  match t.find? l.jobId with
  | some job =>
    if job.holds l then
      let job := { job with status, result := b.settled result job.result,
                            error := b.settled error job.error, completedAt := some (b.stamp now),
                            leaseOwner := none, leaseExpiresAt := none }
      .ok (job, t.update l.jobId fun _ => job)
    else .error (t.lostOrMissing l)
  | none => .error (.jobNotFound l.jobId)

def complete (t : JobTable) (b : Backend) (now : Instant) (l : Lease) (r : JobResult) :
    Except AgentError (Job × JobTable) :=
  t.settle b now l .completed (some r) none

def fail (t : JobTable) (b : Backend) (now : Instant) (l : Lease) (f : JobFailure) :
    Except AgentError (Job × JobTable) :=
  t.settle b now l .failed none (some f)

/-- The reaper at one slot: a job with a lapsed lease goes back to the queue while deliveries
remain and fails after that, and the report lists it under what happened. -/
def reapSlot (config : QueueConfig) (now : Instant) (acc : ReapReport × JobTable) (s : Slot) :
    ReapReport × JobTable :=
  if !s.lapsed now then acc
  else
    let (report, t) := acc
    let job := s.job
    if job.attempts < config.maxAttempts then
      ({ report with requeued := report.requeued ++ [job.jobId] },
       t.update job.jobId fun j => { j with status := .queued, leaseOwner := none, leaseExpiresAt := none })
    else
      let failure := JobFailure.ofError (.leaseExpired job.jobId job.attempts)
      let failed (j : Job) : Job :=
        { j with status := .failed, completedAt := some now, error := some failure,
                 leaseOwner := none, leaseExpiresAt := none }
      ({ report with failed := report.failed ++ [job.jobId] }, t.update job.jobId failed)

/-- Sends every job with a lapsed lease back to the queue while deliveries remain, and fails
it after that; the report lists the jobs in submission order. -/
def reap (t : JobTable) (config : QueueConfig) (b : Backend) (now : Instant) : ReapReport × JobTable :=
  t.slots.foldl (reapSlot config (b.stamp now)) ({}, t)

def purge (t : JobTable) (config : QueueConfig) (b : Backend) (now : Instant) : Nat × JobTable :=
  let kept := t.slots.filter fun s => !s.expired config b now
  (t.slots.length - kept.length, { t with slots := kept })

end JobTable

end ResilientAgent
