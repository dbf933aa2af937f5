import ResilientAgent.Agent.Step

/-!
# The agent loop

The loop takes one user message through steps until the model ends its turn or the iteration
limit is reached, under the time bound of the whole request. Each step sees the conversation so
far; the loop collects the messages the steps add, the tokens they spend and the tools that
were unavailable, and reports its state as it goes: running before each step, and done, failed
(with the error's code) or at the iteration limit at the end. A request is cancelled by firing
its token: it then fails as cancelled at once, dropping whatever step was under way.

An answer given while some tools were unavailable ends with a note naming them. A run that
reaches the limit is not an error: it ends with a fixed answer.
-/

namespace ResilientAgent

def iterationLimitResponse : String :=
  "I could not finish this request within the allowed number of steps."

/-- One user message to run through the loop. -/
structure RunRequest where
  history : List Message := []
  message : String
  scope : String
  /-- The token whose firing cancels the request, if it can be cancelled. -/
  cancel : Option Nat := none
  deriving Inhabited

/-- What the loop has gathered before its next step. -/
structure RunProgress where
  conversation : List Message
  added : List Message
  usage : Usage := {}
  degraded : List String := []

/-- The loop over one step service. -/
structure AgentLoop where
  step : StepRequest → Action (Except AgentError StepOutcome)
  maxIterations : Nat
  requestTimeout : Duration

namespace AgentLoop

/-- Runs steps from `iteration` on, with `left` iterations still allowed. -/
def drive (l : AgentLoop) (req : RunRequest) (iteration : Nat) (progress : RunProgress) :
    Nat → Action (Except AgentError AgentRun)
  | 0 => do
    Action.log .agent .info "iteration limit reached"
      [("scope", .string req.scope), ("max_iterations", Json.nat l.maxIterations)]
    pure (.ok { outcome := .iterationLimitReached, response := iterationLimitResponse
                messages := progress.added ++ [Message.assistant iterationLimitResponse]
                iterations := l.maxIterations, usage := progress.usage
                degradedTools := progress.degraded })
  | left + 1 => do
    if ← Action.isCancelled req.cancel then return .error .cancelled
    Action.record (.loopPhase req.scope (.running iteration))
    match ← l.step ⟨progress.conversation, req.scope, iteration⟩ with
    | .error e => return .error e
    | .ok (.done text appended usage) =>
      let degraded := progress.degraded
      let response := if degraded.isEmpty then text else text ++ "\n\n" ++ degradationNote degraded
      return .ok { outcome := .done, response, messages := progress.added ++ appended
                   iterations := iteration + 1, usage := progress.usage.add usage
                   degradedTools := degraded }
    | .ok (.next appended usage _ degraded) =>
      let fresh := degraded.foldl (fun acc d => if acc.contains d then acc else acc ++ [d])
        progress.degraded
      l.drive req (iteration + 1)
        { conversation := progress.conversation ++ appended, added := progress.added ++ appended
          usage := progress.usage.add usage, degraded := fresh } left

/-- Runs one request to its end under the request's time bound, and reports how it ended. A
request whose token fires stops at once, whatever it was waiting for. -/
def run (l : AgentLoop) (req : RunRequest) : Action (Except AgentError AgentRun) := do
  let user := Message.user req.message
  let bounded : Action (Except AgentError AgentRun) := do
    let r ← Action.within l.requestTimeout
      (l.drive req 0 ⟨req.history ++ [user], [user], {}, []⟩ l.maxIterations)
    pure (r.getD (.error (.timeout .request l.requestTimeout)))
  let result ← match req.cancel with
    | none => bounded
    | some token => do
      match ← Proc.race bounded (Proc.waitFor (·.cancelled.contains token)) with
      | .inl r => pure r
      | .inr () => pure (.error .cancelled)
  let state := match result with
    | .ok r => if r.outcome == .iterationLimitReached then LoopState.iterationLimitReached else .done
    | .error e => .failed e.code
  if let .error e := result then
    Action.log .agent .warn "agent run failed" [("scope", .string req.scope), ("error", .string e.display)]
  Action.record (.loopPhase req.scope state)
  return result

end AgentLoop

end ResilientAgent
