import ResilientAgent.Process.Schedule
import ResilientAgent.Process.Gate
import ResilientAgent.Observe.Event
import ResilientAgent.Store.Basic
import ResilientAgent.Provider.Reply

/-!
# The world of a run

Everything the runtime's components share while they run: the virtual clock and the scripted
wall clock it feeds, the events recorded so far, counters kept by scripted handlers, the
shared store, and the gates that queue concurrent callers. Components are `Action`s,
processes over this world.

Time has two readings. The *virtual clock* counts whole milliseconds since the run started;
timers fire on its ticks, and a timer for a duration fires at the first tick at or after the
exact deadline. The *wall clock* is what the components read: the scripted instant plus the
virtual time elapsed, saturating at the last representable instant. When the stores run in
real time the virtual clock is not added, and the wall clock is the scripted instant alone.
-/

namespace ResilientAgent

/-- The state shared by the components of one run. -/
structure World where
  /-- Whole virtual milliseconds since the run started. -/
  tick : Nat := 0
  /-- Executor rounds run so far. -/
  pass : Nat := 0
  /-- The scripted wall clock, before virtual time is added. -/
  manual : Instant := Instant.scriptEpoch
  /-- Whether virtual time feeds the wall clock. -/
  timed : Bool := true
  /-- Events recorded so far, oldest first. -/
  events : Array RuntimeEvent := #[]
  /-- Whether events are kept; otherwise they only go to the log. -/
  recording : Bool := true
  /-- Invocation counts kept by scripted handlers, by name. -/
  counters : List (String × Nat) := []
  /-- The records the components share. -/
  store : Store := {}
  /-- Gates by name. -/
  gates : Keyed Gate := []
  /-- The keys idempotent calls are in flight for, each with the number of callers that hold a
  claim on it. -/
  inFlight : Keyed Nat := []
  /-- The next ticket handed out, to a gate's caller or as a cancellation token. -/
  nextTicket : Nat := 0
  /-- The cancellation tokens that have fired. -/
  cancelled : List Nat := []
  /-- The replies a scripted model has left, in order. -/
  replies : List ScriptedReply := []
  /-- The requests the model received, oldest first. -/
  requests : Array ModelRequest := #[]
  /-- Whether log lines are kept. -/
  logging : Bool := false
  /-- The spans the log lines being written are in, outermost first. -/
  spans : List LogSpan := []
  /-- The log lines written so far, oldest first. -/
  journal : Array LogLine := #[]
  /-- Why the run was stopped, once a broken invariant has stopped it. -/
  halted : Option String := none
  /-- The factors the random generator draws for jittered delays, in order, each in
  `[0.5, 1.5)`. -/
  jitterFactors : Nat → Float := fun _ => 1.0
  /-- How many jitter factors have been drawn. -/
  jitterDrawn : Nat := 0
  deriving Inhabited

instance : Ticking World :=
  ⟨World.tick, fun w t => { w with tick := t }, World.pass, fun w p => { w with pass := p }⟩

abbrev Action := Proc World

namespace World

def now (w : World) : Instant :=
  if w.timed then w.manual.add (Duration.ofMillis w.tick) else w.manual

def count (w : World) (name : String) : Nat := ((w.counters.find? (·.1 == name)).map (·.2)).getD 0

def bump (w : World) (name : String) : World :=
  let n := w.count name
  { w with counters := (name, n + 1) :: w.counters.filter (·.1 != name) }

end World

/-- The first tick past a far-future deadline: timers for longer than the clock can add fire
thirty years out. -/
def farFutureMillis : Nat := 86400 * 365 * 30 * 1000

def lastTimerTick : Nat := Nat.pow 2 64 - 3

/-- The tick at which a timer set at tick `now` for `d` fires: the deadline rounded up to a
whole millisecond. -/
def timerTick (now : Nat) (d : Duration) : Nat :=
  let span := if d.secs ≥ Nat.pow 2 63 then farFutureMillis else (d.toNanos + 999999) / 1000000
  Nat.min (now + span) lastTimerTick

namespace Action

def now : Action Instant := .read fun w => .pure w.now

def tick : Action Nat := .read fun w => .pure w.tick

/-- Writes a log line from `source` in the current span, if log lines are kept. -/
def log (source : LogSource) (level : LogLevel) (message : String) (fields : List (String × Json) := []) :
    Action Unit :=
  Proc.modify fun w =>
    if w.logging then { w with journal := w.journal.push ⟨w.spans, source, ⟨level, message, fields⟩⟩ }
    else w

/-- Records an event, if events are kept, and writes its log line, if log lines are kept. -/
def record (e : RuntimeEvent) : Action Unit :=
  Proc.modify fun w =>
    let w := if w.recording then { w with events := w.events.push e } else w
    if w.logging then { w with journal := w.journal.push ⟨w.spans, .events, e.logRecord⟩ } else w

/-- Stops the run for a broken invariant; the first reason given is the one kept. -/
def halt (reason : String) : Action Unit :=
  Proc.modify fun w => if w.halted.isSome then w else { w with halted := some reason }

/-- Runs `body` with its log lines in the span `s`, inside the spans already open; the span is
seen by `body` alone. -/
def inSpan {α : Type} (s : LogSpan) (body : Action α) : Action α :=
  Proc.seeing (fun w => { w with spans := w.spans ++ [s] }) (fun old new => { new with spans := old.spans })
    body

def sleep (d : Duration) : Action Unit := do
  Proc.sleepUntil (timerTick (← tick) d)

/-- Runs `body` for at most `after`: its value, or nothing if the time ran out first. A body
that finishes exactly at the deadline still counts. -/
def within {β : Type} (after : Duration) (body : Action β) : Action (Option β) := do
  let deadline := timerTick (← tick) after
  match ← Proc.race body (Proc.sleepUntil deadline) with
  | .inl b => return some b
  | .inr () => return none

/-- Waits for the answer of a database: a store in a database answers in a later round, one
in memory at once; a closed database refuses at once. -/
def awaitStore {α : Type} (r : Except AgentError α) : Action (Except AgentError α) := do
  let database ← Proc.read fun w => .pure (w.store.backend == .database)
  if database && r.isOk then Proc.yieldNow
  return r

def inspect {α : Type} (f : Store → Except AgentError α) : Action (Except AgentError α) := do
  awaitStore (← .read fun w => .pure (f w.store))

/-- Reads and changes the shared store in one step; a failed operation changes nothing. -/
def update {α : Type} (f : Store → Except AgentError (α × Store)) : Action (Except AgentError α) := do
  let r ← Proc.modifyGet fun w =>
    match f w.store with
    | .ok (a, s) => (.ok a, { w with store := s })
    | .error e => (.error e, w)
  awaitStore r

def drawJitter : Action Float :=
  Proc.modifyGet fun w => (w.jitterFactors w.jitterDrawn, { w with jitterDrawn := w.jitterDrawn + 1 })

def freshTicket : Action Nat :=
  Proc.modifyGet fun w => (w.nextTicket, { w with nextTicket := w.nextTicket + 1 })

def cancel (token : Nat) : Action Unit :=
  Proc.modify fun w => { w with cancelled := token :: w.cancelled }

def isCancelled (token : Option Nat) : Action Bool :=
  .read fun w => .pure (token.any w.cancelled.contains)

def elapsedSince (start : Nat) : Action Duration := do
  return Duration.ofMillis ((← tick) - start)

end Action

end ResilientAgent

namespace ResilientAgent

def roundLimit : Nat := 1000000

structure Session where
  world : World
  tasks : List (Action Unit)

namespace Session

def ofWorld (w : World) : Session := ⟨w, []⟩

/-- Runs an action to its end in the session: its value, or nothing when it cannot finish,
and the session after it. -/
def perform {α : Type} (s : Session) (a : Action α) : Option α × Session :=
  let e := Executor.run roundLimit ⟨s.world, a, s.tasks⟩
  (e.value?, ⟨e.world, e.tasks⟩)

end Session

end ResilientAgent
