import ResilientAgent.Resilience.Retry
import ResilientAgent.Scenario.Policies

/-!
# Timed scenarios

Scenarios that run scripted outcomes on the virtual clock: one outcome under a time bound, and
a sequence of outcomes under a retry policy, which may instead retry every failure except one
with a given message. An outcome is `{"ok": value}` or
`{"err": failure}`, optionally with `"delay"`, a sleep before it answers.
-/

namespace ResilientAgent

namespace Scenario

structure Outcome where
  delay : Option Duration
  result : Except Fault Json

def outcome? (j : Json) : Option Outcome := do
  let delay ← j.readOpt "delay" duration?
  match j.get? "ok", j.get? "err" with
  | some v, _ => return ⟨delay, .ok v⟩
  | none, some e => return ⟨delay, .error (← fault? e)⟩
  | none, none => none

def Outcome.play (o : Outcome) : Action (Except Fault Json) := do
  if let some d := o.delay then Action.sleep d
  return o.result

def resultJson {α : Type} (value : α → Json) : Except Fault α → Json
  | .ok v => okJson (value v)
  | .error e => errJson (faultJson e)

def eventsSince (w : World) (start : Nat) : Json :=
  .array ((w.events.toList.drop start).map (RuntimeEvent.toJson w.timed))

def boundedOutcome (request : Json) : Option Json := do
  let scope ← request.read "scope" (fun j => j.str? >>= TimeoutScope.ofName?)
  let after ← request.read "after" duration?
  let o ← request.read "outcome" outcome?
  let run : Action (Except Fault Json × Duration) := do
    let start ← Action.tick
    let r := match ← Action.within after o.play with
      | some r => r
      | none => .error (.agent (.timeout scope after))
    return (r, ← Action.elapsedSince start)
  let (r, elapsed) ← ((Session.ofWorld {}).perform run).1
  return .object [("result", resultJson id r), ("elapsed", durationJson elapsed)]

/-- A sequence of outcomes under a retry policy: attempt `n` plays outcome `n`, the last one
repeating. -/
def retriedOutcomes (request : Json) : Option Json := do
  let maxRetries ← request.read "max_retries" Json.u64?
  let backoff ← request.read "backoff" backoffOfParts
  let outcomes ← request.read "outcomes" (Json.readEach outcome?)
  let last ← outcomes.getLast?
  let dependency ← request.readOr "dependency" Json.str? "dep"
  -- a jittered delay is random unless every delay is zero
  let jitter ← request.readOr "jitter" Json.bool? false
  let silent := backoff.initial.isZero || (backoff.kind == .exponential && backoff.max.isZero)
  if jitter && !silent then none
  let stopOn ← request.readOpt "stop_on" Json.str?
  let policy : RetryPolicy := { maxRetries, backoff := { backoff with jitter } }
  let policy := match stopOn with
    | some text => { policy with retryable := fun e => e.display != text }
    | none => policy
  let op (n : Nat) : Action (Except Fault Json) := do
    Proc.modify (·.bump "calls")
    (outcomes.getD n last).play
  let run : Action (Except Fault (Json × Nat) × Duration) := do
    let start ← Action.tick
    let r ← policy.execute dependency fun n => do
      return (← op n).map (·, n)
    return (r, ← Action.elapsedSince start)
  let (r, s) := (Session.ofWorld {}).perform run
  let (r, elapsed) ← r
  return .object [("result", resultJson (fun (v, n) => .object [("value", v), ("attempt", Json.nat n)]) r),
    ("calls", Json.nat (s.world.count "calls")), ("elapsed", durationJson elapsed),
    ("events", eventsSince s.world 0)]

end Scenario

end ResilientAgent
