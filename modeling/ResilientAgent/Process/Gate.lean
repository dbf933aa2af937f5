/-!
# Gates

A gate lets a bounded number of holders through at a time and queues the rest in arrival
order: a semaphore, or with one permit a lock. Arrivals are told apart by tickets.

A free permit is taken at once. When a holder leaves, its permit goes to the oldest waiter,
which picks it up the next time it runs; only when nobody waits does the permit become free
again, so a newcomer never overtakes a waiter. A waiter that gives up leaves the queue, and
one that gives up after being handed a permit passes the permit on.
-/

namespace ResilientAgent

/-- The permits of a gate and the arrivals waiting for them. -/
structure Gate where
  /-- Permits nobody holds or has been handed. -/
  free : Nat
  /-- Tickets waiting, oldest first. -/
  waiting : List Nat := []
  /-- Tickets handed a permit they have not picked up yet. -/
  handed : List Nat := []
  deriving Inhabited

namespace Gate

def fresh (permits : Nat) : Gate := ⟨permits, [], []⟩

def arrive (g : Gate) (ticket : Nat) : Bool × Gate :=
  if g.free > 0 then (true, { g with free := g.free - 1 })
  else (false, { g with waiting := g.waiting ++ [ticket] })

/-- A holder leaves: its permit goes to the oldest waiter, or becomes free. -/
def leave (g : Gate) : Gate :=
  match g.waiting with
  | t :: rest => { g with waiting := rest, handed := g.handed ++ [t] }
  | [] => { g with free := g.free + 1 }

def isHanded (g : Gate) (ticket : Nat) : Bool := g.handed.contains ticket

def pickUp (g : Gate) (ticket : Nat) : Gate := { g with handed := g.handed.erase ticket }

/-- The ticket gives up waiting: it leaves the queue, or passes on a permit it was handed. -/
def abandon (g : Gate) (ticket : Nat) : Gate :=
  if g.handed.contains ticket then (g.pickUp ticket).leave
  else { g with waiting := g.waiting.erase ticket }

end Gate

end ResilientAgent
