import ResilientAgent.Jobs.Queue
import ResilientAgent.Conversation.State
import ResilientAgent.Resilience.Breaker
import ResilientAgent.Resilience.Bucket

/-!
# The shared store

One store holds every record that the runtime's components share: breaker counters by
dependency, bucket levels by resource, remembered results by idempotency key, the job queue and
conversation histories by user. Each operation reads the records it needs and writes back the
records it changes in one step, so operations on the store never interleave.

A store in a database keeps instants in whole milliseconds, except inside the breaker records,
which it keeps as text. Once the database is closed every operation fails with
`Backend.closedError`.
-/

namespace ResilientAgent

/-- A remembered result: its text and the instant it expires. -/
structure Memo where
  value : String
  expiresAt : Instant
  deriving Inhabited

/-- The shared records of one deployment. -/
structure Store where
  backend : Backend := .memory
  closed : Bool := false
  queueConfig : QueueConfig := {}
  conversationConfig : ConversationConfig := {}
  breakers : Keyed BreakerState := []
  buckets : Keyed BucketState := []
  memos : Keyed Memo := []
  jobs : JobTable := {}
  histories : Keyed ConversationState := []
  deriving Inhabited

namespace Store

def available (s : Store) : Except AgentError Unit :=
  if s.backend == .database && s.closed then .error Backend.closedError else .ok ()

def stamp (s : Store) (t : Instant) : Instant := s.backend.stamp t

/-! ## Breakers -/

/-- Changes the breaker record of `name` (closed with no failures when new) by `f`, and returns
what `f` reports with the record written. -/
def updateBreaker {α : Type} (s : Store) (name : String) (f : BreakerState → α × BreakerState) :
    Except AgentError ((α × BreakerState) × Store) := do
  s.available
  let (a, state) := f ((s.breakers.get? name).getD {})
  return ((a, state), { s with breakers := s.breakers.put name state })

def breaker? (s : Store) (name : String) : Except AgentError (Option BreakerState) := do
  s.available
  return s.breakers.get? name

/-! ## Buckets -/

/-- Refills the bucket of `resource` (full when new) and takes `n` tokens if they are there. -/
def tryAcquire (s : Store) (resource : String) (config : BucketConfig) (n : Float) (now : Instant) :
    Except AgentError (Acquire × Store) := do
  s.available
  let now := s.stamp now
  let state := (s.buckets.get? resource).getD (BucketLevel.full config now)
  let (a, state) := state.tryConsume config n now
  let state := { state with lastRefillAt := s.stamp state.lastRefillAt }
  return (a, { s with buckets := s.buckets.put resource state })

/-- The level of the bucket of `resource` after a refill. Memory keeps the refilled bucket; a
database only reads. -/
def level (s : Store) (resource : String) (config : BucketConfig) (now : Instant) :
    Except AgentError (Float × Store) := do
  s.available
  let now := s.stamp now
  let state := ((s.buckets.get? resource).getD (BucketLevel.full config now)).refill config now
  match s.backend with
  | .memory => return (state.tokens, { s with buckets := s.buckets.put resource state })
  | .database => return (state.tokens, s)

/-! ## Remembered results -/

/-- The result remembered under `key`, unless it has expired by `now`. -/
def remembered (s : Store) (key : String) (now : Instant) : Except AgentError (Option String) := do
  s.available
  let now := s.stamp now
  return match s.memos.get? key with
    | some m => if m.expiresAt.sinceEpoch > now.sinceEpoch then some m.value else none
    | none => none

def remember (s : Store) (key value : String) (expiresAt : Instant) : Except AgentError Store := do
  s.available
  return { s with memos := s.memos.put key ⟨value, s.stamp expiresAt⟩ }

/-- Forgets the results expired by `now`; reports how many. -/
def purgeMemos (s : Store) (now : Instant) : Except AgentError (Nat × Store) := do
  s.available
  let now := s.stamp now
  let kept := s.memos.filter fun e => e.2.expiresAt.sinceEpoch > now.sinceEpoch
  return (s.memos.length - kept.length, { s with memos := kept })

/-! ## Jobs -/

/-- Submits a job; a refused submission fails before the database is reached. -/
def enqueue (s : Store) (now : Instant) (new : NewJob) : Except AgentError (Job × Store) := do
  new.validate
  s.available
  let (job, jobs) ← s.jobs.enqueue s.queueConfig s.backend now new
  return (job, { s with jobs })

def job? (s : Store) (jobId : String) : Except AgentError (Option Job) := do
  s.available
  return s.jobs.find? jobId

/-- Leases the next job from `priorities`. -/
def dequeue (s : Store) (now : Instant) (priorities : List Priority) (workerId : String) :
    Except AgentError (Option (Job × Lease) × Store) := do
  s.available
  let (r, jobs) := s.jobs.dequeue s.queueConfig s.backend now priorities workerId
  return (r, { s with jobs })

/-- Leases the named job. -/
def lease (s : Store) (now : Instant) (jobId workerId : String) (ttl : Duration) :
    Except AgentError (Lease × Store) := do
  s.available
  let (l, jobs) ← s.jobs.lease s.queueConfig s.backend now jobId workerId ttl
  return (l, { s with jobs })

/-- Renews a lease. -/
def renew (s : Store) (now : Instant) (l : Lease) : Except AgentError (Lease × Store) := do
  s.available
  let (l, jobs) ← s.jobs.renew s.backend now l
  return (l, { s with jobs })

/-- Completes a held job. -/
def complete (s : Store) (now : Instant) (l : Lease) (r : JobResult) : Except AgentError (Job × Store) := do
  s.available
  let (j, jobs) ← s.jobs.complete s.backend now l r
  return (j, { s with jobs })

/-- Fails a held job. -/
def fail (s : Store) (now : Instant) (l : Lease) (f : JobFailure) : Except AgentError (Job × Store) := do
  s.available
  let (j, jobs) ← s.jobs.fail s.backend now l f
  return (j, { s with jobs })

/-- Requeues or fails the jobs with a lapsed lease. -/
def reap (s : Store) (now : Instant) : Except AgentError (ReapReport × Store) := do
  s.available
  let (r, jobs) := s.jobs.reap s.queueConfig s.backend now
  return (r, { s with jobs })

/-- Removes the terminal jobs past their retention. -/
def purgeJobs (s : Store) (now : Instant) : Except AgentError (Nat × Store) := do
  s.available
  let (n, jobs) := s.jobs.purge s.queueConfig s.backend now
  return (n, { s with jobs })

def depth (s : Store) : Except AgentError Nat := do
  s.available
  return s.jobs.depth

/-! ## Conversations -/

/-- The user's history, or an empty one saved now if there is none or it expired; an expired
history is removed. -/
def load (s : Store) (now : Instant) (userId : String) : Except AgentError (ConversationState × Store) := do
  s.available
  let now := s.stamp now
  match s.histories.get? userId with
  | none => return (ConversationState.empty userId now, s)
  | some h =>
    if h.isExpired s.conversationConfig.ttl now then
      return (ConversationState.empty userId now, { s with histories := s.histories.erase userId })
    else return (h, s)

/-- Trims a history, stamps it with now and keeps it. -/
def save (s : Store) (now : Instant) (h : ConversationState) :
    Except AgentError (ConversationState × Store) := do
  s.available
  let h := { h.trim s.conversationConfig.maxMessages with updatedAt := s.stamp now }
  return (h, { s with histories := s.histories.put h.userId h })

def clear (s : Store) (userId : String) : Except AgentError Store := do
  s.available
  return { s with histories := s.histories.erase userId }

/-- Whether a history has expired by `now`: in memory by adding its time to live to its last
save, in a database by whole milliseconds against its cutoff. -/
def stale (s : Store) (now : Instant) (h : ConversationState) : Bool :=
  match s.backend with
  | .memory => h.isExpired s.conversationConfig.ttl now
  | .database => h.updatedAt.millis ≤ now.millisBefore s.conversationConfig.ttl

/-- Forgets every expired history; reports how many. -/
def purgeHistories (s : Store) (now : Instant) : Except AgentError (Nat × Store) := do
  s.available
  let kept := s.histories.filter fun e => !s.stale now e.2
  return (s.histories.length - kept.length, { s with histories := kept })

end Store

end ResilientAgent
