import ResilientAgent.Agent.Worker
import ResilientAgent.Scenario.Agent
import ResilientAgent.Scenario.Jobs

/-!
# Workers in scenarios

A worker scenario sets up the queue and the conversation store of a configuration, an agent
over the scripted model and declared tools, and a reaper that also forgets remembered results.
Its ops submit jobs, have workers poll the queue (several at once when several are named),
reap, read a user's history or act on the queue directly. While workers poll, a side script
may sleep, move the clock, reap, close the store or act on the queue, and its answers come back
with the poll's.

Every op reports, besides its own answer, the time it took, its events, the model requests it
caused and the tool runs so far. Idempotency keys are scoped by job and are left out of the
events.
-/

namespace ResilientAgent

namespace Scenario

/-- An op of the side script run while workers poll. -/
inductive SideOp where
  | sleep (d : Duration)
  | set (at_ : Instant)
  | advance (d : Duration)
  | closeStore
  | reap
  | queue (op : QueueOp)

def sideOp? (backend : Backend) (op : Json) : Option SideOp :=
  match op.get? "sleep", op.get? "set", op.get? "advance" with
  | some d, _, _ => (duration? d).map .sleep
  | none, some t, _ => (instant? t).map .set
  | none, none, some d => (duration? d).map .advance
  | none, none, none =>
    if op.has "close_store" then if backend == .database then some .closeStore else none
    else if op.has "reap" then some .reap
    else (op.get? "queue").bind fun q => (queueOp? q).map .queue

/-- An op of a worker scenario. -/
inductive WorkerOp where
  | submit (new : Except AgentError NewJob)
  | poll (workers : List String) (side : List SideOp)
  | reap
  | conversation (userId : String)
  | queue (op : QueueOp)

def workerOp? (backend : Backend) (op : Json) : Option WorkerOp :=
  match op.get? "submit", op.get? "poll", op.get? "reap", op.get? "conversation", op.get? "queue" with
  | some new, _, _, _, _ => (newJob? new).map .submit
  | none, some ids, _, _, _ => do
    let workers ← match ids with
      | .string id => some [id]
      | other => Json.strings? other
    return .poll workers (← op.readOr "during" (Json.readEach (sideOp? backend)) [])
  | none, none, some _, _, _ => some .reap
  | none, none, none, some (.string userId), _ => some (.conversation userId)
  | none, none, none, none, some q => (queueOp? q).map .queue
  | _, _, _, _, _ => none

def scopedEventsFrom (start : Nat) : Action Json := do
  match ← eventsFrom start with
  | .array events => return .array (events.map fun e =>
      if (e.get? "event").bind Json.str? == some "idempotent_replay" then
        match e with
        | .object fields => .object (fields.map fun (k, v) => (k, if k == "key" then .null else v))
        | other => other
      else e)
  | other => return other

def reapListsJson (r : ReapReport) : Json :=
  .object [("requeued", .array (r.requeued.map Json.string)),
    ("failed", .array (r.failed.map Json.string))]

def reapCountsJson (r : ReapReport) : Json :=
  .object [("requeued", Json.nat r.requeued.length), ("failed", Json.nat r.failed.length)]

/-- What a worker scenario runs its ops with. -/
structure WorkerBench where
  config : RuntimeConfig
  agent : AgentLoop
  idempotency : IdempotencyGuard

def WorkerBench.side (b : WorkerBench) : List SideOp → List Lease → Action (List Json × List Lease)
  | [], leases => pure ([], leases)
  | op :: rest, leases => do
    let (answer, leases) ← match op with
      | .sleep d => do Action.sleep d; pure (Json.string "slept", leases)
      | .set at_ => do
        Proc.modify fun w => { w with manual := at_ }
        pure (.object [("now", instantJson (← Action.now))], leases)
      | .advance d => do
        Proc.modify fun w => { w with manual := w.manual.add d }
        pure (.object [("now", instantJson (← Action.now))], leases)
      | .closeStore => do
        Proc.modify fun w => { w with store := { w.store with closed := true } }
        pure (.object [("closed", .bool true)], leases)
      | .reap => do pure (answerJson reapCountsJson (← reapOnce (some b.idempotency)), leases)
      | .queue q => q.run leases
    let (answers, leases) ← b.side rest leases
    return (answer :: answers, leases)

/-- The answer of a poll by the named workers, side by side, with the side script running
beside them; a worker that cannot be made answers for the whole poll. -/
def WorkerBench.poll (b : WorkerBench) (ids : List String) (side : List SideOp) (leases : List Lease) :
    Action (List (String × Json) × List Lease) :=
  let made := ids.map fun id => Worker.create id b.config b.agent
  let refused := made.filterMap fun | .error e => some e | .ok _ => none
  let workers := made.filterMap fun | .ok w => some w | .error _ => none
  if !refused.isEmpty then
    pure ([("worker_error", .array (refused.map agentErrorJson))], leases)
  else do
    let polls := Proc.all (workers.map fun w => answerJson (Json.opt Job.toJson) <$> w.pollOnce)
    if side.isEmpty then
      return ([("polled", .array (← polls))], leases)
    else
      let (polled, sideAnswers, leases) ← Proc.both polls (b.side side leases)
      return ([("polled", .array polled), ("during", .array sideAnswers)], leases)

def WorkerBench.run (b : WorkerBench) (tools : List DeclaredTool) (leases : List Lease) (op : WorkerOp) :
    Action (Json × List Lease) := do
  let mark ← eventMark
  let asked ← Proc.read fun w => .pure w.requests.size
  let start ← Action.tick
  let (fields, leases) ← match op with
    | .submit (.error e) => pure ([("err", agentErrorJson e)], leases)
    | .submit (.ok new) => do pure ([memberOf (answerJson Job.toJson (← JobQueue.enqueue new))], leases)
    | .poll ids side => b.poll ids side leases
    | .reap => do pure ([memberOf (answerJson reapListsJson (← reapOnce (some b.idempotency)))], leases)
    | .conversation userId => do
      pure ([memberOf (answerJson ConversationState.toJson (← ConversationStore.load userId))], leases)
    | .queue q => do
      let (answer, leases) ← q.run leases
      pure (members answer, leases)
  let elapsed ← Action.elapsedSince start
  let w ← Proc.get
  let events ← scopedEventsFrom mark
  return (.object (fields ++ [("elapsed", elapsedJson w.timed elapsed), ("events", events),
    ("requests", requestsFrom w asked), ("tool_calls", toolCallsJson tools w)]), leases)
where
  /-- The members of an object answer. -/
  members : Json → List (String × Json)
    | .object fields => fields
    | _ => []
  /-- The one member of an `ok` or `err` answer. -/
  memberOf (j : Json) : String × Json :=
    match members j with
    | [m] => m
    | _ => ("ok", j)

/-- Workers over the queue, the conversation store and an agent built from the request, driven
by worker ops; a failure to build the agent answers for the whole scenario. -/
def workerOps (request : Json) : Option Json :=
  match declaredTools? request, agentSetup? request, request.read "ops" Json.array? with
  | some tools, some setup, some ops =>
    let r : Resilience := ⟨setup.config⟩
    let builder : AgentBuilder :=
      { config := setup.config, tools := tools.map (·.tool), provider := some setup.provider.service
        resilience := r }
    match builder.build with
    | .error e => some (failedJson e)
    | .ok agent =>
      let bench : WorkerBench := ⟨setup.config, agent, r.idempotency⟩
      let store : Store :=
        { queueConfig := setup.config.queue, conversationConfig := setup.config.conversation }
      let w := { worldOn setup.backend store with replies := setup.script }
      playOpsWith w ([] : List Lease) ops fun leases op =>
        (workerOp? setup.backend op).map (bench.run tools leases)
  | _, _, _ => none

end Scenario

end ResilientAgent
