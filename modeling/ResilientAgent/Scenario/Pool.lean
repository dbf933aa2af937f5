import ResilientAgent.Agent.Pool
import ResilientAgent.Scenario.Worker

/-!
# The worker pool in scenarios

A pool scenario submits its jobs, starts a pool of the configured size (with a reaper if asked)
over an agent built from the request, lets it run for a stretch of virtual time and shuts it
down. It then reports what became of every job, how many jobs are still queued, how often the
model was asked, and each submitting user's history.
-/

namespace ResilientAgent

namespace Scenario

def jobSummaryJson (j : Job) : Json :=
  match j.toJson with
  | .object fields =>
    .object (fields.filter fun (k, _) =>
      ["status", "attempts", "result", "error", "user_id", "message"].contains k)
  | other => other

/-- Submits every job in order: the answer to each, and the identifier and user of each job
that was accepted. -/
def submitAll : List (Except AgentError NewJob) → Action (List Json × List (String × String))
  | [] => pure ([], [])
  | new :: rest => do
    let (answer, accepted) ← match new with
      | .error e => pure (errJson (agentErrorJson e), [])
      | .ok new => do
        match ← JobQueue.enqueue new with
        | .ok job => pure (okJson job.toJson, [(job.jobId, new.userId)])
        | .error e => pure (errJson (agentErrorJson e), [])
    let (answers, acceptedRest) ← submitAll rest
    return (answer :: answers, accepted ++ acceptedRest)

/-- What became of the accepted jobs, the depth of the queue, the model requests and the
histories of the submitting users. -/
def poolReport (accepted : List (String × String)) : Action (List (String × Json)) := do
  let jobs ← accepted.mapM fun (jobId, _) => do
    return (jobId, answerOrNull (Json.opt jobSummaryJson) (← JobQueue.get jobId))
  let depth ← JobQueue.depth
  let users := (accepted.map (·.2)).eraseDups
  let histories ← users.mapM fun userId => do
    return (userId, answerOrNull (fun (s : ConversationState) => messagesJson s.messages)
      (← ConversationStore.load userId))
  let w ← Proc.get
  return [("jobs", .object jobs), ("depth", answerOrNull Json.nat depth),
    ("model_calls", Json.nat w.requests.size), ("conversations", .object histories)]
where
  /-- A read value, or `null` when the read failed. -/
  answerOrNull {α : Type} (value : α → Json) : Except AgentError α → Json
    | .ok v => value v
    | .error _ => .null

def poolOps (request : Json) : Option Json :=
  match declaredTools? request, agentSetup? request,
      request.read "jobs" (Json.readEach newJob?), request.read "run_for" duration?,
      request.readOr "reaper" Json.bool? false with
  | some tools, some setup, some jobs, some runFor, some withReaper =>
    let config := setup.config
    let r : Resilience := ⟨config⟩
    let builder : AgentBuilder :=
      { config, tools := tools.map (·.tool), provider := some setup.provider.service, resilience := r }
    match builder.build with
    | .error e => some (failedJson e)
    | .ok agent =>
      let reaper : Option Reaper :=
        if withReaper then some ⟨config.queue.reaperInterval, some r.idempotency⟩ else none
      let run : Action Json := do
        let (submitted, accepted) ← submitAll jobs
        let started ← match WorkerPool.start config agent reaper "worker" with
          | .error e => do
            Action.sleep runFor
            pure (errJson (agentErrorJson e))
          | .ok pool => do
            let token ← Action.freshTicket
            let _ ← Proc.both (pool.run token) (do Action.sleep runFor; Action.cancel token)
            pure (okJson (.object [("len", Json.nat pool.len), ("is_empty", .bool (pool.len == 0))]))
        let report ← poolReport accepted
        return .object ([("submitted", .array submitted), ("start", started)] ++ report)
      let store : Store := { queueConfig := config.queue, conversationConfig := config.conversation }
      let w := { worldOn setup.backend store with replies := setup.script }
      ((Session.ofWorld w).perform run).1
  | _, _, _, _, _ => none

end Scenario

end ResilientAgent
