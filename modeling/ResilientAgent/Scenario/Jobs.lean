import ResilientAgent.Service.Queue
import ResilientAgent.Scenario.Session
import ResilientAgent.Scenario.Guards

/-!
# Queue and conversation scenarios

Sessions over the job queue and the conversation store. A queue session numbers the leases it
is granted, in order: every dequeue, lease and renewal that succeeds adds one, and a later op
may name a lease by its number or forge one outright. A number that was never granted skips the
op.
-/

namespace ResilientAgent

namespace Scenario

/-- A lease named by an op. -/
inductive LeaseRef where
  /-- The lease granted with this number. -/
  | index (n : Nat)
  | forged (l : Lease)

def leaseRef? (j : Json) : Option LeaseRef :=
  match j with
  | .number (.int n) => if n ≥ 0 then some (.index n.toNat) else none
  | _ => do
    let jobId ← j.read "job" Json.str?
    let workerId ← j.read "worker" Json.str?
    let attempt ← j.read "attempt" Json.u32?
    let expiresAt ← j.read "expires_at" instant?
    let ttl ← j.read "ttl" duration?
    return .forged ⟨jobId, workerId, attempt, expiresAt, ttl⟩

/-- An op on the job queue. -/
inductive QueueOp where
  /-- A submission, or the refusal of its priority. -/
  | enqueue (new : Except AgentError NewJob)
  | get (jobId : String)
  | dequeue (priorities : Except AgentError (List Priority)) (workerId : String)
  | lease (jobId workerId : String) (ttl : Duration)
  | renew (ref : LeaseRef)
  | complete (ref : LeaseRef) (result : JobResult)
  | fail (ref : LeaseRef) (error : AgentError)
  | reap
  | purge
  | depth

def priority? (j : Json) : Option (Except AgentError Priority) := (Json.u8? j).map Priority.new

def newJob? (j : Json) : Option (Except AgentError NewJob) := do
  let userId ← j.read "user_id" Json.str?
  let message ← j.read "message" Json.str?
  let priority ← j.readOr "priority" priority? (.ok Priority.default)
  return priority.map fun priority => { userId, message, priority }

def queueOp? (op : Json) : Option QueueOp :=
  match op with
  | .object [(name, arg)] =>
    match name with
    | "enqueue" => (newJob? arg).map .enqueue
    | "get" => (Json.str? arg).map .get
    | "dequeue" => do
      let priorities ← arg.readOr "priorities" (Json.readEach priority?) []
      let workerId ← arg.readOr "worker" Json.str? "w"
      return .dequeue (priorities.mapM id) workerId
    | "lease" => do
      return .lease (← arg.read "job" Json.str?) (← arg.readOr "worker" Json.str? "w")
        (← arg.read "ttl" duration?)
    | "renew" => (leaseRef? arg).map .renew
    | "complete" => do
      return .complete (← arg.read "lease" leaseRef?) (← arg.read "result" (typed JobResult.decode))
    | "fail" => do
      return .fail (← arg.read "lease" leaseRef?) (← arg.read "error" agentError?)
    | "reap" => some .reap
    | "purge" => some .purge
    | "depth" => some .depth
    | _ => none
  | _ => none

def answerJson {α : Type} (value : α → Json) : Except AgentError α → Json
  | .ok v => okJson (value v)
  | .error e => errJson (agentErrorJson e)

def numberedLeaseJson (l : Lease) (n : Nat) : Json :=
  .object [("lease", l.toJson), ("lease_index", Json.nat n)]

def skipped : Json := .object [("skipped", .string "no such lease")]

def QueueOp.run (leases : List Lease) : QueueOp → Action (Json × List Lease)
  | .enqueue (.error e) => pure (errJson (agentErrorJson e), leases)
  | .enqueue (.ok new) => do
    return (answerJson Job.toJson (← JobQueue.enqueue new), leases)
  | .get jobId => do
    return (answerJson (Json.opt Job.toJson) (← JobQueue.get jobId), leases)
  | .dequeue (.error e) _ => pure (errJson (agentErrorJson e), leases)
  | .dequeue (.ok priorities) workerId => do
    match ← JobQueue.dequeue priorities workerId with
    | .ok (some (job, l)) =>
      return (okJson (.object [("job", job.toJson), ("lease", l.toJson),
        ("lease_index", Json.nat leases.length)]), leases ++ [l])
    | .ok none => return (okJson .null, leases)
    | .error e => return (errJson (agentErrorJson e), leases)
  | .lease jobId workerId ttl => do
    match ← JobQueue.lease jobId workerId ttl with
    | .ok l => return (okJson (numberedLeaseJson l leases.length), leases ++ [l])
    | .error e => return (errJson (agentErrorJson e), leases)
  | .renew ref => withLease ref fun l => do
    match ← JobQueue.renew l with
    | .ok l => return (okJson (numberedLeaseJson l leases.length), leases ++ [l])
    | .error e => return (errJson (agentErrorJson e), leases)
  | .complete ref r => withLease ref fun l => do
    return (answerJson Job.toJson (← JobQueue.complete l r), leases)
  | .fail ref e => withLease ref fun l => do
    return (answerJson Job.toJson (← JobQueue.fail l (JobFailure.ofError e)), leases)
  | .reap => do
    let report ← JobQueue.reap
    return (answerJson (fun (r : ReapReport) => .object [
      ("requeued", .array (r.requeued.map Json.string)),
      ("failed", .array (r.failed.map Json.string)), ("is_empty", .bool r.isEmpty)]) report, leases)
  | .purge => do return (answerJson Json.nat (← JobQueue.purge), leases)
  | .depth => do return (answerJson Json.nat (← JobQueue.depth), leases)
where
  /-- Runs `k` on the named lease, or skips the op. -/
  withLease (ref : LeaseRef) (k : Lease → Action (Json × List Lease)) : Action (Json × List Lease) :=
    match ref with
    | .forged l => k l
    | .index n =>
      match leases[n]? with
      | some l => k l
      | none => pure (skipped, leases)

def queueOps (request : Json) : Option Json := do
  let backend ← backendOf request
  let queueConfig ← request.readOr "config" (typed QueueConfig.decode) {}
  let ops ← request.read "ops" Json.array?
  playOpsWith (worldOn backend { queueConfig }) ([] : List Lease) ops fun leases op =>
    (queueOp? op).map (·.run leases)

/-- An op on the conversation store. -/
inductive HistoryOp where
  | append (userId : String) (messages : List Message)
  | load (userId : String)
  | save (userId : String) (messages : List Message)
  | clear (userId : String)
  | purge

def historyOp? (op : Json) : Option HistoryOp :=
  match op with
  | .object [(name, arg)] =>
    match name with
    | "append" => do
      return .append (← arg.read "user" Json.str?) (← arg.read "messages" (typed (Node.list Message.decode)))
    | "load" => (Json.str? arg).map .load
    | "save" => do
      return .save (← arg.read "user_id" Json.str?)
        (← arg.read "messages" (typed (Node.list Message.decode)))
    | "clear" => (Json.str? arg).map .clear
    | "purge" => some .purge
    | _ => none
  | _ => none

def HistoryOp.run : HistoryOp → Action Json
  | .append userId messages => answerJson ConversationState.toJson <$> ConversationStore.append userId messages
  | .load userId => answerJson ConversationState.toJson <$> ConversationStore.load userId
  | .save userId messages => do
    let now ← Action.now
    answerJson ConversationState.toJson <$> ConversationStore.save ⟨userId, messages, now⟩
  | .clear userId => unitJson <$> ConversationStore.clear userId
  | .purge => answerJson Json.nat <$> ConversationStore.purge

def conversationOps (request : Json) : Option Json := do
  let backend ← backendOf request
  let conversationConfig ← request.readOr "config" (typed ConversationConfig.decode) {}
  let ops ← request.read "ops" Json.array?
  playOps (worldOn backend { conversationConfig }) ops fun op => (historyOp? op).map (·.run)

end Scenario

end ResilientAgent
