import ResilientAgent.Service.World

/-!
# Circuit breakers

A `CircuitBreaker` guards the calls to one named dependency with the state machine of
`BreakerState`, kept in the shared store so that every caller of the dependency sees the same
counters. Before a call it asks the store for admission; a rejected call fails with
`CircuitOpen` and never reaches the dependency. After the call it records how the call ended.
Every change of state is reported as an event.

A probe dropped before it ends must not keep the breaker half-open: dropping it starts a task
that records the probe as ignored. A failure to record is only a warning; a failure to read
the store when admitting fails the call.
-/

namespace ResilientAgent

/-- The breaker of one named dependency. -/
structure CircuitBreaker where
  name : String
  config : BreakerConfig
  deriving Inhabited

namespace CircuitBreaker

def report (b : CircuitBreaker) : Option Transition → Action Unit
  | some t => Action.record (.breakerTransition b.name t.source t.target)
  | none => pure ()

/-- Asks the store for admission now. -/
def admission (b : CircuitBreaker) : Action (Except AgentError Admission) := do
  let now ← Action.now
  match ← Action.update (·.updateBreaker b.name fun s =>
      let (adm, t, s) := s.permit b.config now
      ((adm, t), s)) with
  | .ok ((adm, t), _) =>
    b.report t
    return .ok adm
  | .error e => return .error e

/-- Records how an admitted call ended. -/
def settle (b : CircuitBreaker) (adm : Admission) (result : CallResult) : Action Unit := do
  let now ← Action.now
  match ← Action.update (·.updateBreaker b.name fun s => s.record b.config adm result now) with
  | .ok (t, _) => b.report t
  | .error _ => pure ()

/-- Runs `op` if the breaker admits it and records how it ended. -/
def call {α : Type} (b : CircuitBreaker) (op : Action (Except Fault α)) : Action (Except Fault α) := do
  match ← b.admission with
  | .error e => return .error (.agent e)
  | .ok (.rejected retryIn) =>
    Action.record (.breakerRejected b.name)
    return .error (.agent (.circuitOpen b.name retryIn))
  | .ok adm =>
    let r ← match adm with
      | .probe => Proc.guardedBy (b.settle .probe .ignored) op
      | _ => op
    let result := match r with
      | .ok _ => CallResult.success
      | .error e => CallResult.ofFault e
    b.settle adm result
    return r

def state (b : CircuitBreaker) : Action (Except AgentError BreakerState) :=
  Action.inspect fun s => (s.breaker? b.name).map (·.getD {})

/-- Forces the breaker closed, reporting the change if it was not closed. -/
def reset (b : CircuitBreaker) : Action (Except AgentError Unit) := do
  match ← Action.update (·.updateBreaker b.name fun s => (s.state, {})) with
  | .ok (before, _) =>
    if before != CircuitState.closed then b.report (some ⟨before, .closed⟩)
    return .ok ()
  | .error e => return .error e

end CircuitBreaker

/-- The breakers of a deployment: one configuration for all, except the named overrides. -/
structure BreakerRegistry where
  defaults : BreakerConfig
  overrides : Keyed BreakerConfig := []
  deriving Inhabited

def BreakerRegistry.get (r : BreakerRegistry) (name : String) : CircuitBreaker :=
  ⟨name, (r.overrides.get? name).getD r.defaults⟩

end ResilientAgent
