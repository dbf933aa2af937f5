import ResilientAgent.Service.Gate

/-!
# Idempotent execution

An `IdempotencyGuard` runs an operation at most once per key within a time to live. The first
caller of a key runs the operation and, if it succeeds, remembers the encoded result in the
shared store until the time to live has passed; a later caller gets the remembered result back
and a replay event, and the operation does not run. Failures are not remembered, so a failed
operation runs again next time. Callers of one key in one process take turns in arrival order,
so a second caller waits for the first one's result instead of running the operation beside
it.

The keys in use are kept in an in-flight map. A caller claims its key for the whole call, and
the first claim on a key makes the key's lock afresh. A claim is dropped when its call returns
or is dropped, after the caller has let go of the lock. The last claim on a key forgets the key
and its lock, so the map keeps a key only while a call of it is in flight.

A result that cannot be remembered is still returned: the operation already ran, and losing
the record must not turn its success into a failure. A store that cannot be read fails the
call.
-/

namespace ResilientAgent

structure IdempotencyGuard where
  ttl : Duration
  deriving Inhabited

structure Keeping (α : Type) where
  encode : α → String
  decode : String → Except Fault α

namespace IdempotencyGuard

/-- The lock that lets the callers of one key through one at a time: the gate of this name. -/
def lockName (key : String) : String := "idempotency " ++ key

end IdempotencyGuard

namespace World

def claims (w : World) (key : String) : Nat := (w.inFlight.get? key).getD 0

def claim (w : World) (key : String) : World :=
  { w with inFlight := w.inFlight.put key (w.claims key + 1) }

/-- A caller drops its claim on `key`: the last claim forgets the key and its lock, any other
leaves one claim fewer. -/
def unclaim (w : World) (key : String) : World :=
  if w.claims key ≤ 1 then
    { w with inFlight := w.inFlight.erase key,
             gates := w.gates.erase (IdempotencyGuard.lockName key) }
  else { w with inFlight := w.inFlight.put key (w.claims key - 1) }

end World

namespace IdempotencyGuard

/-- What follows the operation: a success is remembered until the time to live has passed, a
failure is passed on. -/
def keepResult {α : Type} (g : IdempotencyGuard) (key : String) (keeping : Keeping α) :
    Except Fault α → Action (Except Fault α)
  | .error e => return .error e
  | .ok v => do
    let now ← Action.now
    let _ ← Action.update fun s => (s.remember key (keeping.encode v) (now.add g.ttl)).map ((), ·)
    return .ok v

/-- Looks `key` up now: a remembered result is replayed, otherwise `op` runs. -/
def lookupOrRun {α : Type} (g : IdempotencyGuard) (key : String) (keeping : Keeping α)
    (op : Action (Except Fault α)) : Action (Except Fault α) := do
  let now ← Action.now
  match ← Action.inspect (·.remembered key now) with
  | .error e => return .error (.agent e)
  | .ok (some stored) =>
    Action.record (.idempotentReplay key)
    return keeping.decode stored
  | .ok none => op >>= g.keepResult key keeping

/-- Runs `op` unless a result for `key` is remembered, and remembers a success; the call holds a
claim on `key` throughout. -/
def ensure {α : Type} (g : IdempotencyGuard) (key : String) (keeping : Keeping α)
    (op : Action (Except Fault α)) : Action (Except Fault α) := do
  Proc.modify (·.claim key)
  Action.withExit (·.unclaim key) (Action.through (lockName key) 1 (g.lookupOrRun key keeping op))

def purge (_g : IdempotencyGuard) : Action (Except AgentError Nat) := do
  let now ← Action.now
  Action.update (·.purgeMemos now)

end IdempotencyGuard

end ResilientAgent
