import ResilientAgent.Config.Basic
import ResilientAgent.Time.Instant

/-!
# Circuit breaker state

A breaker guards one dependency. While *closed* it lets every call through and counts
consecutive transient failures; at the threshold it *opens* and refuses calls until the
recovery timeout has passed since the last failure. It then turns *half-open* and lets exactly
one trial call through (the probe): success closes it, failure opens it again, and a probe
that never reports back is replaced once the recovery timeout has passed since it started.

Calls admitted before a trip may report after it; their failures are counted but do not move
the cooldown, and their successes do not reset the count. Time is measured in whole
milliseconds and never runs backwards: a clock that steps back sees no time pass.

The cooldown's arithmetic is written once for any `CooldownSeconds`: running breakers count in
floats, and the breaker's laws are stated over exact rationals.
-/

namespace ResilientAgent

/-- The three states of a breaker. -/
inductive CircuitState where
  | closed
  | open
  | halfOpen
  deriving Repr, DecidableEq, Inhabited

/-- The name of a state in data. -/
def CircuitState.name : CircuitState → String
  | .closed => "closed"
  | .open => "open"
  | .halfOpen => "half_open"

/-- Why a call was or was not let through. -/
inductive Admission where
  | allowed
  /-- The single trial call of a half-open breaker. -/
  | probe
  | rejected (retryIn : Duration)
  deriving Repr, DecidableEq, Inhabited

/-- A change of state. -/
structure Transition where
  source : CircuitState
  target : CircuitState
  deriving Repr, DecidableEq, Inhabited

/-- The counters of one breaker. -/
structure BreakerState where
  state : CircuitState := .closed
  consecutiveFailures : Nat := 0
  lastFailureAt : Option Instant := none
  /-- Set while the half-open probe is outstanding. -/
  probeStartedAt : Option Instant := none
  deriving Repr, DecidableEq, Inhabited

/-- Numbers a breaker counts its cooldown in: elapsed seconds, durations read from seconds and
written as seconds, and their order. Running breakers count in floats; exact rationals follow
the same rules without rounding. -/
class CooldownSeconds (α : Type) extends SecondsCount α, LE α where
  toDuration? : α → Except Duration.FloatSecondsError Duration
  ofDuration : Duration → α
  decLe : DecidableRel (α := α) (· ≤ ·)

instance CooldownSeconds.instDecidableLe {α : Type} [CooldownSeconds α] :
    DecidableRel (α := α) (· ≤ ·) :=
  CooldownSeconds.decLe

instance CooldownSeconds.instFloat : CooldownSeconds Float where
  toDuration? := Duration.ofSecsFloat?
  ofDuration := Duration.toSecsFloat
  decLe := Float.decLe

namespace BreakerState

/-- How long the open breaker still refuses calls: the recovery timeout less the whole
seconds-and-milliseconds since the last failure, or nothing when no failure is known. -/
def cooldownLeft (s : BreakerState) (config : BreakerConfig) (now : Instant) (α : Type := Float)
    [CooldownSeconds α] : Duration :=
  match s.lastFailureAt with
  | some at_ =>
    match CooldownSeconds.toDuration? (Instant.elapsedSecs at_ now : α) with
    | .ok since => config.recoveryTimeout.saturatingSub since
    | .error _ => Duration.zero
  | none => Duration.zero

/-- Whether an outstanding probe has been out for the recovery timeout. -/
def probeAbandoned (s : BreakerState) (config : BreakerConfig) (now : Instant) (α : Type := Float)
    [CooldownSeconds α] : Bool :=
  match s.probeStartedAt with
  | some at_ =>
    decide (CooldownSeconds.ofDuration config.recoveryTimeout ≤ (Instant.elapsedSecs at_ now : α))
  | none => false

/-- Decides whether a call may go through now, and moves an open breaker whose cooldown is
over to half-open. -/
def permit (s : BreakerState) (config : BreakerConfig) (now : Instant) (α : Type := Float)
    [CooldownSeconds α] : Admission × Option Transition × BreakerState :=
  match s.state with
  | .closed => (.allowed, none, s)
  | .open =>
    let left := s.cooldownLeft config now α
    if left.isZero then
      (.probe, some ⟨.open, .halfOpen⟩, { s with state := .halfOpen, probeStartedAt := some now })
    else (.rejected left, none, s)
  | .halfOpen =>
    if s.probeStartedAt.isNone || s.probeAbandoned config now α then
      (.probe, none, { s with probeStartedAt := some now })
    else (.rejected Duration.zero, none, s)

/-- Records how an admitted call ended. -/
def record (s : BreakerState) (config : BreakerConfig) (admission : Admission)
    (result : CallResult) (now : Instant) : Option Transition × BreakerState :=
  let after : BreakerState :=
    match admission, result with
    | .rejected _, _ => s
    | .probe, .success => { s with state := .closed, consecutiveFailures := 0, probeStartedAt := none }
    | .probe, .failure =>
      { s with state := .open, consecutiveFailures := Nat.min (s.consecutiveFailures + 1) (Nat.pow 2 32 - 1),
               lastFailureAt := some now, probeStartedAt := none }
    | .probe, .ignored => { s with probeStartedAt := none }
    | .allowed, .success => if s.state == .closed then { s with consecutiveFailures := 0 } else s
    | .allowed, .failure =>
      let failures := Nat.min (s.consecutiveFailures + 1) (Nat.pow 2 32 - 1)
      if s.state == .closed then
        { s with consecutiveFailures := failures, lastFailureAt := some now,
                 state := if failures ≥ config.failureThreshold then .open else .closed }
      else { s with consecutiveFailures := failures }
    | .allowed, .ignored => s
  match admission with
  | .rejected _ => (none, s)
  | _ => (if after.state != s.state then some ⟨s.state, after.state⟩ else none, after)

/-- The JSON form of the counters. -/
def toJson (s : BreakerState) : Json :=
  let instant (t : Instant) : Json := .string t.rfc3339
  .object [("state", .string s.state.name), ("consecutive_failures", Json.nat s.consecutiveFailures),
    ("last_failure_at", Json.opt instant s.lastFailureAt),
    ("probe_started_at", Json.opt instant s.probeStartedAt)]

end BreakerState

def Transition.toJson (t : Transition) : Json :=
  .object [("from", .string t.source.name), ("to", .string t.target.name)]

end ResilientAgent
