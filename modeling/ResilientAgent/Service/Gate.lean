import ResilientAgent.Service.World

/-!
# Passing a gate

`Action.through name permits body` runs `body` while holding one permit of the named gate,
created with `permits` permits on first use. A caller that finds no free permit queues up and
runs once a leaving holder hands it one. Dropping the caller gives its place or its permit
back, so a cancelled caller never blocks the ones behind it.
-/

namespace ResilientAgent

namespace World

def gate (w : World) (name : String) (permits : Nat) : Gate :=
  (w.gates.get? name).getD (Gate.fresh permits)

def changeGate (w : World) (name : String) (permits : Nat) (f : Gate → Gate) : World :=
  { w with gates := w.gates.put name (f (w.gate name permits)) }

/-- An arrival at the named gate: a fresh ticket, and whether it took a permit at once. -/
def arrive (w : World) (name : String) (permits : Nat) : (Nat × Bool) × World :=
  let ticket := w.nextTicket
  let (entered, g) := (w.gate name permits).arrive ticket
  ((ticket, entered), { w with nextTicket := ticket + 1, gates := w.gates.put name g })

end World

namespace Action

/-- Waits until the ticket is handed a permit of the named gate, and picks it up; a waiter
that is dropped gives up its place, or passes on the permit it was handed. -/
def awaitPermit (name : String) (permits : Nat) (ticket : Nat) : Action Unit :=
  Proc.guarded (fun w => w.changeGate name permits (·.abandon ticket)) do
    Proc.waitFor fun w => (w.gate name permits).isHanded ticket
    Proc.modify fun w => w.changeGate name permits (·.pickUp ticket)

/-- Runs `body`, then changes the world by `exit`; a drop of `body` changes it by `exit` too. -/
def withExit {β : Type} (exit : World → World) (body : Action β) : Action β := do
  let b ← Proc.guarded exit body
  Proc.modify exit
  return b

/-- Runs `body` with a permit of the named gate in hand, and gives the permit back when it
finishes or is dropped. -/
def holding {β : Type} (name : String) (permits : Nat) (body : Action β) : Action β :=
  withExit (fun w => w.changeGate name permits Gate.leave) body

/-- Runs `body` holding a permit of the named gate. -/
def through {β : Type} (name : String) (permits : Nat) (body : Action β) : Action β := do
  let (ticket, entered) ← Proc.modifyGet (·.arrive name permits)
  if !entered then awaitPermit name permits ticket
  holding name permits body

end Action

end ResilientAgent
