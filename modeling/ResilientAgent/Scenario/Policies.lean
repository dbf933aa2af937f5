import ResilientAgent.Resilience.Backoff
import ResilientAgent.Resilience.Breaker
import ResilientAgent.Resilience.Bucket
import ResilientAgent.Scenario.Failure
import ResilientAgent.Idempotency.Key

/-!
# Policies in scenarios

Scenarios that step the pure policies by hand: the delays of a backoff schedule, a breaker's
admissions and records at given instants, a bucket's refills and takes, and idempotency keys.
-/

namespace ResilientAgent

namespace Scenario

def float? (j : Json) : Option Float := j.float?

def backoffJson (b : Backoff) : Json :=
  .object [("kind", .string b.kind.name), ("initial", durationJson b.initial),
    ("base", Json.float b.base), ("max", durationJson b.max), ("jitter", .bool b.jitter)]

def backoffOfParts (request : Json) : Option Backoff := do
  let kind ← request.read "kind" Json.str?
  let initial ← request.read "initial" duration?
  let b ← match kind with
    | "fixed" => some (Backoff.fixed initial)
    | "exponential" =>
      let base ← request.readOr "base" float? 2.0
      let max ← request.readOr "max" duration? (Duration.ofSecs 60)
      some (Backoff.exponential initial base max)
    | _ => none
  let jitter ← request.readOr "jitter" Json.bool? b.jitter
  return { b with jitter }

def backoffDelays (request : Json) : Option Json := do
  let attempts ← request.read "attempts" (Json.readEach Json.u64?)
  let (b, maxRetries) ← match request.get? "retry_config" with
    | some c =>
      let config ← typed RetryConfig.decode c
      some (Backoff.ofConfig config, some config.maxRetries)
    | none => do pure (← backoffOfParts request, none)
  return .object [("backoff", backoffJson b), ("max_retries", Json.opt Json.nat maxRetries),
    ("delays", .array (attempts.map fun a => durationJson (b.delayFor a)))]

def circuitState? (j : Json) : Option CircuitState :=
  match j.str? with
  | some "closed" => some .closed
  | some "open" => some .open
  | some "half_open" => some .halfOpen
  | _ => none

def breakerState? (j : Json) : Option BreakerState := do
  return { state := ← j.read "state" circuitState?
           consecutiveFailures := ← j.read "consecutive_failures" Json.u32?
           lastFailureAt := ← j.readOpt "last_failure_at" instant?
           probeStartedAt := ← j.readOpt "probe_started_at" instant? }

def admission? (j : Json) : Option Admission :=
  match j with
  | .string "allowed" => some .allowed
  | .string "probe" => some .probe
  | other => (other.read "rejected" duration?).map .rejected

def admissionJson : Admission → Json
  | .allowed => .string "allowed"
  | .probe => .string "probe"
  | .rejected d => .object [("rejected", durationJson d)]

def callResult? (j : Json) : Option CallResult :=
  match j.str? with
  | some "success" => some .success
  | some "failure" => some .failure
  | some "ignored" => some .ignored
  | _ => none

def breakerStep (config : BreakerConfig) (s : BreakerState) (step : Json) :
    Option (BreakerState × Json) := do
  match step.get? "admit", step.get? "record" with
  | some at_, _ =>
    let (a, t, s) := s.permit config (← instant? at_)
    return (s, .object [("admission", admissionJson a), ("transition", Json.opt Transition.toJson t),
      ("state", s.toJson)])
  | none, some r =>
    let admission ← r.read "admission" admission?
    let result ← r.read "result" callResult?
    let now ← r.read "at" instant?
    let (t, s) := s.record config admission result now
    return (s, .object [("transition", Json.opt Transition.toJson t), ("state", s.toJson)])
  | none, none => none

def breakerSteps (request : Json) : Option Json := do
  let config ← request.read "config" (typed BreakerConfig.decode)
  let initial ← request.readOr "initial" breakerState? {}
  let steps ← request.read "steps" Json.array?
  let (_, reports) ← steps.foldlM (fun (s, out) step => do
    let (s, report) ← breakerStep config s step
    return (s, out ++ [report])) (initial, [])
  return .object [("steps", .array reports)]

def acquireJson : Acquire → Json
  | .granted => .string "granted"
  | .denied d => .object [("denied", durationJson d)]

/-- One bucket step and what it reports; every step refills, so a bucket that cannot be
refilled stops with the reason. -/
def bucketStep (config : BucketConfig) (s : BucketState) (step : Json) :
    Option (Except String (BucketState × Json)) := do
  match step.get? "consume", step.get? "refill" with
  | some n, _ =>
    let n ← float? n
    let at_ ← step.read "at" instant?
    if let some reason := config.refillFault? then return .error reason
    let (r, s) := s.tryConsume config n at_
    return .ok (s, .object [("result", acquireJson r), ("state", s.toJson)])
  | none, some at_ =>
    let at_ ← instant? at_
    if let some reason := config.refillFault? then return .error reason
    let s := s.refill config at_
    return .ok (s, .object [("state", s.toJson)])
  | none, none => none

def bucketSteps (request : Json) : Option Json := do
  let config ← request.read "config" (typed BucketConfig.decode)
  let init ← request.get? "init"
  let initial ← match init.get? "full_at" with
    | some at_ => (instant? at_).map (BucketLevel.full config)
    | none => do pure (BucketLevel.mk (← init.read "tokens" float?) (← init.read "last_refill_at" instant?))
  let steps ← request.read "steps" Json.array?
  let played ← steps.foldlM (fun (acc : Except String (BucketState × List Json)) step =>
    match acc with
    | .error reason => some (.error reason)
    | .ok (s, out) => do
      match ← bucketStep config s step with
      | .ok (s, report) => return .ok (s, out ++ [report])
      | .error reason => return .error reason) (.ok (initial, [.object [("state", initial.toJson)]]))
  match played with
  | .error reason => return haltedJson reason
  | .ok (_, reports) =>
    return .object [("effective_capacity", Json.float config.effectiveCapacity),
      ("steps", .array reports)]

def idempotencyKey? (j : Json) : Option IdempotencyKey :=
  match j with
  | .string k => some ⟨k⟩
  | other =>
    match other.get? "parts" with
    | some parts => (Json.readEach Json.str? parts).map IdempotencyKey.ofParts
    | none => do
      let scope ← other.read "scope" Json.str?
      let tool ← other.read "tool" Json.str?
      return IdempotencyKey.forToolCall scope tool (other.memberOr "arguments" .null)

def idempotencyKeyOf (request : Json) : Option Json := do
  let key ← match request.get? "key" with
    | some k => (k.str?).map IdempotencyKey.mk
    | none => idempotencyKey? request
  return .object [("key", .string key.text)]

end Scenario

end ResilientAgent
