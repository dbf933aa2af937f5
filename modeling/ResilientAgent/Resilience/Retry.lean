import ResilientAgent.Resilience.Policy
import ResilientAgent.Service.World

/-!
# Retrying

A retry policy runs an operation until it succeeds, fails with an error it does not retry
(by default one that is not transient), or has failed `maxRetries + 1` times. Before each new attempt it records a
`retry_scheduled` event with the failure and sleeps the backoff delay of the attempt that
failed, scaled by a random factor when the backoff jitters; when the budget is spent it records
`retry_exhausted` and fails with `RetryExhausted`, keeping the last failure as its source. A
scaled delay that is no duration panics.
-/

namespace ResilientAgent

/-- The delay before the attempt after `attempt`: the backoff's delay, scaled by a freshly drawn
factor when the backoff jitters. -/
def Backoff.jittered (b : Backoff) (attempt : Nat) : Action (Except Duration.FloatSecondsError Duration) :=
  if b.jitter then do
    let factor ← Action.drawJitter
    return (b.delayFor attempt).mulFloat? factor
  else return .ok (b.delayFor attempt)

theorem Backoff.jittered_of_jitter_false {b : Backoff} (h : b.jitter = false) (attempt : Nat) :
    b.jittered attempt = .pure (.ok (b.delayFor attempt)) := by
  simp only [Backoff.jittered, h, Bool.false_eq_true, if_false]
  rfl

namespace RetryPolicy

/-- Runs `op` (given the attempt number, from zero) under the policy, for `dependency`. -/
def execute {α : Type} (p : RetryPolicy) (dependency : String) (op : Nat → Action (Except Fault α)) :
    Action (Except Fault α) :=
  attempt 0 p.maxRetries
where
  /-- Attempt number `n`, with `left` retries still allowed after it. -/
  attempt (n : Nat) : Nat → Action (Except Fault α)
    | 0 => do
      match ← op n with
      | .ok v => return .ok v
      | .error e =>
        if !p.retryable e then return .error e
        Action.record (.retryExhausted dependency (n + 1))
        return .error (.agent (.retryExhausted dependency (n + 1) e))
    | left + 1 => do
      match ← op n with
      | .ok v => return .ok v
      | .error e =>
        if !p.retryable e then return .error e
        match ← p.backoff.jittered n with
        | .error overflow =>
          Action.halt overflow.message
          return .error e
        | .ok delay =>
          Action.record (.retryScheduled dependency (n + 1) delay e.display)
          Action.sleep delay
          attempt (n + 1) left

end RetryPolicy

end ResilientAgent
