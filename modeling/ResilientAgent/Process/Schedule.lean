import ResilientAgent.Process.Basic

/-!
# Running processes

An executor for `Proc` over a world with a virtual clock. It holds a main process and the
detached tasks spawned so far, and runs them in rounds:

* a *poll* advances a process as far as it can go without waiting: it performs reads and
  writes, passes every `await` whose condition already holds, and inside `first`, `join` and
  `guard` polls the parts in order; a part that finishes hands its value on at once;
* a *round* polls the main process, and, unless it has finished, every task in spawn order; a
  process that gives way is ready again in the next round;
* when a round moves nothing, the clock jumps to the earliest timer any process waits for.

This is how a single-threaded executor with a paused clock behaves: everything runs until it
waits, time passes only when nothing can run, and the main process returns as soon as it is
done. Both loops run on fuel, so a process that never settles stops with the executor stuck.
-/

namespace ResilientAgent

/-- A world that carries a virtual clock counted in whole milliseconds, and the number of
executor rounds run so far. -/
class Ticking (σ : Type) where
  tick : σ → Nat
  setTick : σ → Nat → σ
  pass : σ → Nat
  setPass : σ → Nat → σ

namespace Proc

variable {σ : Type}

def sleepUntil [Ticking σ] (at_ : Nat) : Proc σ Unit :=
  .await (fun s => Ticking.tick s ≥ at_) (some at_) (.pure ())

def now [Ticking σ] : Proc σ Nat := .read fun s => .pure (Ticking.tick s)

/-- Gives way: blocks until the executor's next round, without letting time pass. -/
def yieldNow [Ticking σ] : Proc σ Unit :=
  .read fun s =>
    let p := Ticking.pass s
    .await (fun s' => Ticking.pass s' > p) none (.pure ())

/-- What one poll did: the world after it, the process as it now stands (finished when it is
`pure`), the tasks it spawned, and whether anything moved. -/
structure Polled (σ α : Type) : Type 1 where
  world : σ
  proc : Proc σ α
  spawned : List (Proc σ Unit)
  moved : Bool

def Polled.moving {α : Type} (r : Polled σ α) : Polled σ α := { r with moved := true }

def Polled.withTasks {α : Type} (r : Polled σ α) (tasks : List (Proc σ Unit)) : Polled σ α :=
  { r with spawned := r.spawned ++ tasks }

def Polled.andThen {α β : Type} (first : Polled σ β) (next : Polled σ α) : Polled σ α :=
  { next with spawned := first.spawned ++ next.spawned, moved := true }

/-- The state of a group while its children are polled in turn. -/
structure GroupPass (σ β : Type) : Type 1 where
  world : σ
  /-- The children seen so far, in order. -/
  seen : List (Proc σ β)
  spawned : List (Proc σ Unit)
  moved : Bool
  /-- The value that aborted the group, once one has. -/
  aborted : Option β

/-- Advances a process as far as it goes without waiting, within `fuel` steps. -/
def poll {α : Type} : Nat → σ → Proc σ α → Polled σ α
  | 0, s, p => ⟨s, p, [], false⟩
  | fuel + 1, s, p =>
    match p with
    | .pure a => ⟨s, .pure a, [], false⟩
    | .read next => (poll fuel s (next s)).moving
    | .write s' next => (poll fuel s' next).moving
    | .await ready d next =>
      if ready s then (poll fuel s next).moving else ⟨s, .await ready d next, [], false⟩
    | .spawn task next =>
      let r := poll fuel s next
      { r with spawned := task :: r.spawned, moved := true }
    | .guard undo cleanup body next =>
      let r := poll fuel s body
      match result? r.proc with
      | some b => r.andThen (poll fuel r.world (next b))
      | none => { r with proc := .guard undo cleanup r.proc next }
    | .first l rt next =>
      let rl := poll fuel s l
      match result? rl.proc with
      | some b =>
        let (w, left) := release rt rl.world
        (rl.withTasks left).andThen (poll fuel w (next (.inl b)))
      | none =>
        let rr := poll fuel rl.world rt
        let both : Polled σ Unit :=
          ⟨rr.world, .pure (), rl.spawned ++ rr.spawned, rl.moved || rr.moved⟩
        match result? rr.proc with
        | some c =>
          let (w, left) := release rl.proc rr.world
          (both.withTasks left).andThen (poll fuel w (next (.inr c)))
        | none => { both with proc := .first rl.proc rr.proc next }
    | .join n cs abort next =>
      let pass := (List.finRange n).foldl (fun (acc : GroupPass σ _) i =>
          match acc.aborted with
          | some _ => { acc with seen := acc.seen ++ [cs i] }
          | none =>
            let r := poll fuel acc.world (cs i)
            let stop := match result? r.proc with
              | some b => if abort b then some b else none
              | none => none
            ⟨r.world, acc.seen ++ [r.proc], acc.spawned ++ r.spawned, acc.moved || r.moved, stop⟩)
        ⟨s, [], [], false, none⟩
      let here : Polled σ Unit := ⟨pass.world, .pure (), pass.spawned, pass.moved⟩
      match pass.aborted with
      | some b =>
        let (rest, left) := pass.seen.foldl (fun (acc : σ × List (Proc σ Unit)) c =>
          let (w, ts) := release c acc.1
          (w, acc.2 ++ ts)) (pass.world, [])
        (here.withTasks left).andThen (poll fuel rest (next (.inl b)))
      | none =>
        let values := pass.seen.filterMap result?
        if values.length == pass.seen.length then
          here.andThen (poll fuel pass.world (next (.inr values)))
        else
          { here with proc := .join pass.seen.length (fun i => pass.seen.get i) abort next }

end Proc

/-- A main process, the detached tasks beside it, and the world they share. -/
structure Executor (σ α : Type) : Type 1 where
  world : σ
  main : Proc σ α
  tasks : List (Proc σ Unit)

namespace Executor

variable {σ α : Type}

def pollFuel : Nat := 1000000

def taskFuel : Nat := 1000000

/-- Polls the tasks in `queue` in order, each once; a task spawned meanwhile joins the end of
the queue. Returns the world, the tasks still running and whether anything moved. -/
def pollTasks : Nat → σ → List (Proc σ Unit) → List (Proc σ Unit) → Bool →
    σ × List (Proc σ Unit) × Bool
  | 0, w, queue, kept, moved => (w, kept ++ queue, moved)
  | _ + 1, w, [], kept, moved => (w, kept, moved)
  | fuel + 1, w, t :: queue, kept, moved =>
    let r := Proc.poll pollFuel w t
    let kept := match Proc.result? r.proc with
      | some _ => kept
      | none => kept ++ [r.proc]
    pollTasks fuel r.world (queue ++ r.spawned) kept (moved || r.moved)

/-- Polls the main process and, unless it finished, every task in order, the ones it just
spawned last; reports whether anything moved. -/
def round [Ticking σ] (e : Executor σ α) : Executor σ α × Bool :=
  let w := Ticking.setPass e.world (Ticking.pass e.world + 1)
  let m := Proc.poll pollFuel w e.main
  match Proc.result? m.proc with
  | some _ => (⟨m.world, m.proc, e.tasks ++ m.spawned⟩, true)
  | none =>
    let (world, tasks, moved) := pollTasks taskFuel m.world (e.tasks ++ m.spawned) [] m.moved
    (⟨world, m.proc, tasks⟩, moved)

def deadline (e : Executor σ α) : Option Nat :=
  e.tasks.foldl (fun acc t => Proc.deadline.earlier acc (Proc.deadline t)) (Proc.deadline e.main)

/-- Runs rounds until the main process finishes, letting time pass whenever nothing moves;
stops early when nothing can ever move again or the rounds run out. -/
def run [Ticking σ] : Nat → Executor σ α → Executor σ α
  | 0, e => e
  | rounds + 1, e =>
    let (e, moved) := e.round
    match Proc.result? e.main with
    | some _ => e
    | none =>
      if moved then run rounds e
      else match e.deadline with
        | some d =>
          if d > Ticking.tick e.world then run rounds { e with world := Ticking.setTick e.world d }
          else e
        | none => e

def value? (e : Executor σ α) : Option α := Proc.result? e.main

end Executor

end ResilientAgent
