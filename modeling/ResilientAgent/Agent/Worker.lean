import ResilientAgent.Agent.Loop
import ResilientAgent.Service.Idempotency
import ResilientAgent.Service.Queue

/-!
# Workers and the reaper

A worker serves the job queue: it takes the next job of the levels it polls, runs the user's
message through the agent with the user's stored history, saves the history with the messages
the run added, and completes the job with the run's result or fails it with the run's error.
Everything it needs is in the shared store, so any number of workers can serve any user.

While the agent runs, the worker renews its lease every third of the lease's time to live (at
least every ten milliseconds). A renewal that finds the lease lost, or the job gone, cancels the
run; any other failed renewal is let pass.

The reaper sends jobs with lapsed leases back to the queue, or fails them once their deliveries
are spent, and then forgets the jobs, histories and remembered results past their retention.
-/

namespace ResilientAgent

/-- The duration divided by `n`: the whole seconds are divided and their remainder carried
into nanoseconds, each part rounded down. -/
def Duration.divNat (d : Duration) (n : Nat) : Duration :=
  let secs := d.secs / n
  let carry := d.secs - secs * n
  ⟨secs * nanosPerSecond + (d.subsecNanos / n + carry * nanosPerSecond / n)⟩

def heartbeatPeriod (ttl : Duration) : Duration := (ttl.divNat 3).larger (Duration.ofMillis 10)

/-- Renewals a worker makes before it stops renewing; far more than any run needs. -/
def heartbeatLimit : Nat := 1000000

/-- One poll loop over the queue. -/
structure Worker where
  id : String
  agent : AgentLoop
  /-- The levels it polls, most urgent first; none means every level. -/
  priorities : List Priority

namespace Worker

/-- A worker with the polled levels of the worker settings, or the refusal of one of them. -/
def create (id : String) (config : RuntimeConfig) (agent : AgentLoop) : Except AgentError Worker :=
  match config.worker.priorities.mapM Priority.new with
  | .ok priorities => .ok ⟨id, agent, priorities⟩
  | .error e => .error e

/-- Renews the lease at the `k`-th tick of a ticker started at tick `start`, and on from there;
a lease lost or a job gone fires `token`. The ticker never finishes: past its last renewal it
only waits. -/
def heartbeat (lease : Lease) (token : Nat) (start : Nat) (period : Duration) (k : Nat) :
    Nat → Action Unit
  | 0 => Proc.waitFor fun _ => false
  | left + 1 => do
    Proc.sleepUntil (timerTick start ⟨k * period.toNanos⟩)
    match ← JobQueue.renew lease with
    | .error e@(.leaseLost ..) | .error e@(.jobNotFound _) =>
      Action.log .worker .warn "lease lost, abandoning run" [("error", .string e.display)]
      Action.cancel token
    | .error e => Action.log .worker .warn "lease renewal failed" [("error", .string e.display)]
    | .ok _ => pure ()
    heartbeat lease token start period (k + 1) left

/-- Runs the request while renewing the lease; the run wins a tie with a renewal. The ticker
never finishes, so the run always ends the race. -/
def runWithHeartbeat (w : Worker) (req : RunRequest) (lease : Lease) (token : Nat) :
    Action (Except AgentError AgentRun) := do
  let start ← Action.tick
  match ← Proc.race (w.agent.run req)
      (heartbeat lease token start (heartbeatPeriod lease.ttl) 1 heartbeatLimit) with
  | .inl outcome => return outcome
  | .inr () => return .error .cancelled

/-- Runs a leased job to its end and settles it: completed with the run's result once the
history is saved, failed with the run's error or the failure to save. -/
def process (w : Worker) (job : Job) (lease : Lease) : Action (Except AgentError Job) := do
  match ← ConversationStore.load job.userId with
  | .error e => return .error e
  | .ok state =>
    let token ← Action.freshTicket
    let req : RunRequest :=
      { history := state.messages, message := job.message, scope := job.jobId, cancel := some token }
    let settled ← match ← w.runWithHeartbeat req lease token with
      | .ok run =>
        match ← ConversationStore.save { state with messages := state.messages ++ run.messages } with
        | .ok _ => JobQueue.complete lease (JobResult.ofRun run)
        | .error e => JobQueue.fail lease (JobFailure.ofError e)
      | .error e => do
        Action.log .worker .warn "job failed" [("code", .string (Text.quoted e.code)), ("error", .string e.display)]
        JobQueue.fail lease (JobFailure.ofError e)
    match settled with
    | .ok job =>
      Action.record (.jobTransition job.jobId (some .processing) job.status)
      return .ok job
    | .error e =>
      Action.log .worker .warn "could not record job outcome" [("error", .string e.display)]
      return .error e

/-- The span a job's log lines are written in: the job, its user and the worker. -/
def jobSpan (job : Job) (workerId : String) : LogSpan :=
  ⟨"job", .worker, [("job_id", job.jobId), ("user_id", job.userId), ("worker", workerId)]⟩

/-- Takes and processes at most one job, its log lines in the job's span (seen by this worker
alone); the job in its final state, if there was one. -/
def pollOnce (w : Worker) : Action (Except AgentError (Option Job)) := do
  match ← JobQueue.dequeue w.priorities w.id with
  | .error e => return .error e
  | .ok none => return .ok none
  | .ok (some (job, lease)) =>
    Action.record (.jobTransition job.jobId (some .queued) .processing)
    let span := jobSpan job w.id
    let settled ← Action.inSpan span (w.process job lease)
    return settled.map some

end Worker

/-- Records the transitions of a reaping pass: the requeued jobs first, then the failed ones,
then the counts. A pass that did nothing records nothing. -/
def ReapReport.record (report : ReapReport) : Action Unit := do
  if report.isEmpty then return
  for jobId in report.requeued do
    Action.record (.jobTransition jobId (some .processing) .queued)
  for jobId in report.failed do
    Action.record (.jobTransition jobId (some .processing) .failed)
  Action.record (.leasesReaped report.requeued.length report.failed.length)

/-- One pass of the reaper, which also forgets remembered results if it has their guard. -/
def reapOnce (idempotency : Option IdempotencyGuard) : Action (Except AgentError ReapReport) := do
  match ← JobQueue.reap with
  | .error e => return .error e
  | .ok report =>
    report.record
    match ← JobQueue.purge with
    | .error e => return .error e
    | .ok jobs =>
      match ← ConversationStore.purge with
      | .error e => return .error e
      | .ok conversations =>
        let records ← match idempotency with
          | none => pure (.ok 0)
          | some guard => guard.purge
        match records with
        | .error e => return .error e
        | .ok records =>
          if jobs + conversations + records > 0 then
            Action.log .worker .debug "purged expired records"
              [("jobs", Json.nat jobs), ("conversations", Json.nat conversations), ("records", Json.nat records)]
          return .ok report

end ResilientAgent
