import ResilientAgent.Service.World

/-!
# The queue and the conversation store as services

The job queue and the conversation store of the shared store, read and changed at the wall
clock's current instant. Each operation is one step on the store.
-/

namespace ResilientAgent

namespace JobQueue

def enqueue (new : NewJob) : Action (Except AgentError Job) := do
  let now ← Action.now
  Action.update (·.enqueue now new)

def get (jobId : String) : Action (Except AgentError (Option Job)) :=
  Action.inspect (·.job? jobId)

/-- Leases the next job from the given levels to `workerId`; the database store says which job
it leased. -/
def dequeue (priorities : List Priority) (workerId : String) :
    Action (Except AgentError (Option (Job × Lease))) := do
  let now ← Action.now
  let r ← Action.update (·.dequeue now priorities workerId)
  if let .ok (some (job, _)) := r then
    if (← Proc.get).store.backend == .database then
      Action.log .store .debug "job leased"
        [("job_id", .string job.jobId), ("worker_id", .string (Text.quoted workerId)),
          ("priority", Json.nat job.priority.level)]
  return r

def lease (jobId workerId : String) (ttl : Duration) : Action (Except AgentError Lease) := do
  let now ← Action.now
  Action.update (·.lease now jobId workerId ttl)

def renew (l : Lease) : Action (Except AgentError Lease) := do
  let now ← Action.now
  Action.update (·.renew now l)

def complete (l : Lease) (r : JobResult) : Action (Except AgentError Job) := do
  let now ← Action.now
  Action.update (·.complete now l r)

def fail (l : Lease) (f : JobFailure) : Action (Except AgentError Job) := do
  let now ← Action.now
  Action.update (·.fail now l f)

def reap : Action (Except AgentError ReapReport) := do
  let now ← Action.now
  Action.update (·.reap now)

def purge : Action (Except AgentError Nat) := do
  let now ← Action.now
  Action.update (·.purgeJobs now)

def depth : Action (Except AgentError Nat) := Action.inspect (·.depth)

end JobQueue

namespace ConversationStore

def load (userId : String) : Action (Except AgentError ConversationState) := do
  let now ← Action.now
  Action.update (·.load now userId)

def save (h : ConversationState) : Action (Except AgentError ConversationState) := do
  let now ← Action.now
  Action.update (·.save now h)

def clear (userId : String) : Action (Except AgentError Unit) :=
  Action.update fun s => (s.clear userId).map ((), ·)

def purge : Action (Except AgentError Nat) := do
  let now ← Action.now
  Action.update (·.purgeHistories now)

/-- Loads the user's history, adds `messages` and saves it. -/
def append (userId : String) (messages : List Message) : Action (Except AgentError ConversationState) := do
  match ← load userId with
  | .ok h => save { h with messages := h.messages ++ messages }
  | .error e => return .error e

end ConversationStore

end ResilientAgent
