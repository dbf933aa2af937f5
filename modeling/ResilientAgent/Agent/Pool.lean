import ResilientAgent.Agent.Worker

/-!
# The worker pool

A pool runs identical workers over the same stores, and optionally a reaper, until it is shut
down. Each worker polls in a loop: after a job it polls again at once; after an empty or failed
poll it sleeps, each time twice as long as the last, from the least idle wait up to the most,
and a job brings the wait back to the least. The wait is doubled before it is bounded by the
most: when twice the current wait is longer than the longest duration, the worker's task panics
and the worker is gone. The reaper makes a pass at once and then once per interval. Shutting
down stops the polling and the reaping; a job under way runs to its end.
-/

namespace ResilientAgent

/-- The sleeps between empty polls: each one twice the last, up to a limit. -/
structure IdleBackoff where
  least : Duration
  most : Duration
  current : Duration

namespace IdleBackoff

def start (least most : Duration) : IdleBackoff := ⟨least, most, least⟩

/-- The next sleep, and the schedule after it; nothing when the current wait cannot be
doubled, where the task panics. -/
def next (b : IdleBackoff) : Option (Duration × IdleBackoff) := do
  let doubled ← b.current.checkedMul? 2
  return (b.current, { b with current := Duration.min doubled b.most })

def reset (b : IdleBackoff) : IdleBackoff := { b with current := b.least }

end IdleBackoff

/-- Loop turns a pool task takes before it stops by itself; far more than any run needs. -/
def poolTaskLimit : Nat := 1000000

def stopped (token : Nat) (w : World) : Bool := w.cancelled.contains token

/-- Sleeps for `d` unless shutdown comes first; whether it came. -/
def sleepOrStop (token : Nat) (d : Duration) : Action Bool := do
  match ← Proc.race (Proc.waitFor (stopped token)) (Action.sleep d) with
  | .inl () => return true
  | .inr () => return false

/-- How a worker's polling ended. -/
inductive PollEnd where
  /-- Shutdown came, or the loop reached its limit. -/
  | stopped
  /-- The task panicked: the idle wait could not be doubled. -/
  | panicked
  deriving DecidableEq

/-- Polls until shutdown, sleeping after empty or failed polls. -/
def Worker.poll (w : Worker) (token : Nat) : IdleBackoff → Nat → Action PollEnd
  | _, 0 => pure .stopped
  | backoff, left + 1 => do
    if stopped token (← Proc.get) then return .stopped
    let outcome ← w.pollOnce
    if let .error e := outcome then
      Action.log .worker .warn "poll failed" [("worker", .string w.id), ("error", .string e.display)]
    match outcome with
    | .ok (some _) => w.poll token backoff.reset left
    | _ =>
      match backoff.next with
      | none => return .panicked
      | some (delay, backoff) =>
        if ← sleepOrStop token delay then return .stopped
        w.poll token backoff left

/-- Serves the queue until shutdown, saying when it starts and when it stops; a task that
panicked says nothing more. -/
def Worker.run (w : Worker) (token : Nat) (backoff : IdleBackoff) (limit : Nat) : Action Unit := do
  Action.log .worker .info "worker started" [("worker", .string w.id)]
  if (← w.poll token backoff limit) == .stopped then
    Action.log .worker .info "worker stopped" [("worker", .string w.id)]

/-- A reaper: how often it makes a pass, and the guard of the results it also forgets. -/
structure Reaper where
  interval : Duration
  idempotency : Option IdempotencyGuard

/-- Makes a pass at the `k`-th tick of a ticker started at tick `start`, and on from there,
until shutdown, which it notes; a failed pass is let pass. -/
def Reaper.run (r : Reaper) (token : Nat) (start : Nat) (k : Nat) : Nat → Action Unit
  | 0 => pure ()
  | left + 1 => do
    let due := timerTick start ⟨k * r.interval.toNanos⟩
    match ← Proc.race (Proc.waitFor (stopped token)) (Proc.sleepUntil due) with
    | .inl () => Action.log .worker .debug "reaper stopped"
    | .inr () =>
      if let .error e := ← reapOnce r.idempotency then
        Action.log .worker .warn "reaper pass failed" [("error", .string e.display)]
      r.run token start (k + 1) left

/-- Workers and an optional reaper sharing one shutdown token. -/
structure WorkerPool where
  workers : List Worker
  reaper : Option Reaper
  idleLeast : Duration
  idleMost : Duration

namespace WorkerPool

/-- As many workers as the settings ask for, named `prefix-0`, `prefix-1`, …, or the refusal
of the first that cannot be made. -/
def start (config : RuntimeConfig) (agent : AgentLoop) (reaper : Option Reaper) (namePrefix : String) :
    Except AgentError WorkerPool :=
  let made := (List.range config.worker.concurrency).map fun i =>
    Worker.create (namePrefix ++ "-" ++ toString i) config agent
  match made.mapM id with
  | .ok workers => .ok ⟨workers, reaper, config.worker.idleBackoffMin, config.worker.idleBackoffMax⟩
  | .error e => .error e

def len (p : WorkerPool) : Nat := p.workers.length + (if p.reaper.isSome then 1 else 0)

/-- Runs every task side by side until shutdown by `token`, and waits for all of them. -/
def run (p : WorkerPool) (token : Nat) : Action Unit := do
  let start ← Action.tick
  let tasks := p.workers.map (fun w => w.run token (IdleBackoff.start p.idleLeast p.idleMost) poolTaskLimit) ++
    (p.reaper.map fun r => r.run token start 0 poolTaskLimit).toList
  let _ ← Proc.all tasks

end WorkerPool

end ResilientAgent
