/-!
# Cooperative processes

A `Proc σ α` is a program over a shared world `σ` that ends with a value of type `α`. It is a
tree of instructions, the shape of a future that a cooperative executor polls:

* `read` and `write` look at and replace the world; they take no time;
* `await` blocks until a condition on the world holds, optionally naming the instant (a tick of
  the virtual clock) at which a timer makes it hold;
* `first` runs two processes side by side and continues with whichever finishes first, the
  left one winning a tie; the other is dropped;
* `join` runs several processes side by side, polling them in order, and continues with all
  their values, or with the first value that aborts the group, dropping the rest;
* `guard` marks a stretch of a process that must undo something if it is dropped half-way,
  such as giving back a lock, and may leave a clean-up task behind to run later;
* `spawn` starts a detached task that the executor runs alongside.

Dropping a process runs the undo actions of the guards it is inside of, innermost first, the
way dropping a suspended future runs the destructors of what it holds; their clean-up tasks
are started as detached tasks.
-/

namespace ResilientAgent

/-- A cooperative process over a world `σ`, ending with a value of type `α`. -/
inductive Proc (σ : Type) : Type → Type 1 where
  | pure {α : Type} (value : α) : Proc σ α
  | read {α : Type} (next : σ → Proc σ α) : Proc σ α
  | write {α : Type} (world : σ) (next : Proc σ α) : Proc σ α
  /-- Block until `ready` holds; `deadline` is the tick at which a timer makes it hold. -/
  | await {α : Type} (ready : σ → Bool) (deadline : Option Nat) (next : Proc σ α) : Proc σ α
  | first {α β γ : Type} (left : Proc σ β) (right : Proc σ γ) (next : β ⊕ γ → Proc σ α) : Proc σ α
  /-- Run `count` processes in order; a value for which `abort` holds ends the group. -/
  | join {α β : Type} (count : Nat) (children : Fin count → Proc σ β) (abort : β → Bool)
      (next : β ⊕ List β → Proc σ α) : Proc σ α
  /-- Run `body`; if it is dropped, change the world by `undo` and start `cleanup`. -/
  | guard {α β : Type} (undo : σ → σ) (cleanup : Proc σ Unit) (body : Proc σ β)
      (next : β → Proc σ α) : Proc σ α
  | spawn {α : Type} (task : Proc σ Unit) (next : Proc σ α) : Proc σ α

namespace Proc

variable {σ : Type}

/-- Sequencing: run `p`, then the process its value selects. -/
def bind {α β : Type} : Proc σ α → (α → Proc σ β) → Proc σ β
  | .pure a, f => f a
  | .read next, f => .read fun s => bind (next s) f
  | .write s next, f => .write s (bind next f)
  | .await ready deadline next, f => .await ready deadline (bind next f)
  | .first l r next, f => .first l r fun x => bind (next x) f
  | .join n cs abort next, f => .join n cs abort fun x => bind (next x) f
  | .guard undo cleanup body next, f => .guard undo cleanup body fun x => bind (next x) f
  | .spawn task next, f => .spawn task (bind next f)

instance : Monad (Proc σ) where
  pure := Proc.pure
  bind := Proc.bind

def get : Proc σ σ := .read .pure

def set (s : σ) : Proc σ Unit := .write s (.pure ())

def modifyGet {α : Type} (f : σ → α × σ) : Proc σ α :=
  .read fun s => let (a, s') := f s; .write s' (.pure a)

def modify (f : σ → σ) : Proc σ Unit := .read fun s => .write (f s) (.pure ())

def waitFor (ready : σ → Bool) : Proc σ Unit := .await ready none (.pure ())

/-- Runs two processes side by side; the first to finish wins, the left on a tie. -/
def race {β γ : Type} (l : Proc σ β) (r : Proc σ γ) : Proc σ (β ⊕ γ) := .first l r .pure

/-- Runs processes side by side, polled in list order, and collects their values in order. -/
def all {β : Type} (ps : List (Proc σ β)) : Proc σ (List β) :=
  .join ps.length (fun i => ps.get i) (fun _ => false) fun
    | .inl b => .pure [b]
    | .inr bs => .pure bs

/-- Runs two processes side by side, the left polled first, and pairs their values. The group
ends with both values in order; the other branch only keeps the definition total. -/
def both {β γ : Type} (l : Proc σ β) (r : Proc σ γ) : Proc σ (β × γ) :=
  .join 2 (fun i => if i.val = 0 then Sum.inl <$> l else Sum.inr <$> r) (fun _ => false) fun
    | .inr [.inl b, .inr c] => .pure (b, c)
    | _ => do return (← l, ← r)

/-- Runs fallible processes side by side; the first failure drops the others. -/
def allOk {ε β : Type} (ps : List (Proc σ (Except ε β))) : Proc σ (Except ε (List β)) :=
  .join ps.length (fun i => ps.get i) (fun r => match r with | .error _ => true | .ok _ => false)
    fun
    | .inl (.error e) => .pure (.error e)
    | .inl (.ok b) => .pure (.ok [b])
    | .inr rs => .pure (rs.mapM id)

def guarded {β : Type} (undo : σ → σ) (body : Proc σ β) : Proc σ β :=
  .guard undo (.pure ()) body .pure

/-- Runs `body`, starting `cleanup` as a detached task if it is dropped before it finishes. -/
def guardedBy {β : Type} (cleanup : Proc σ Unit) (body : Proc σ β) : Proc σ β :=
  .guard id cleanup body .pure

def detach (task : Proc σ Unit) : Proc σ Unit := .spawn task (.pure ())

/-- The process run with a changed view of the world: each of its reads and waits sees the
world through `view`, and each of its writes `new` lands as `keep old new`, where `old` is the
world just before the write. Choosing `keep` to restore what `view` changed makes the change
local to this process, the way a task-local value is seen by its own task only. -/
def seeing {α : Type} (view : σ → σ) (keep : σ → σ → σ) : Proc σ α → Proc σ α
  | .pure a => .pure a
  | .read next => .read fun s => seeing view keep (next (view s))
  | .write s next => .read fun old => .write (keep old s) (seeing view keep next)
  | .await ready d next => .await (fun s => ready (view s)) d (seeing view keep next)
  | .first l r next => .first (seeing view keep l) (seeing view keep r) fun x => seeing view keep (next x)
  | .join n cs abort next =>
    .join n (fun i => seeing view keep (cs i)) abort fun x => seeing view keep (next x)
  | .guard undo cleanup body next =>
    .guard (fun s => keep s (undo (view s))) (seeing view keep cleanup) (seeing view keep body)
      fun x => seeing view keep (next x)
  | .spawn task next => .spawn (seeing view keep task) (seeing view keep next)

def result? {α : Type} : Proc σ α → Option α
  | .pure a => some a
  | _ => none

/-- Drops a process: the world after the undo actions of the guards it is inside of, applied
innermost first, and the clean-up tasks they leave. -/
def release {α : Type} : Proc σ α → σ → σ × List (Proc σ Unit)
  | .guard undo cleanup body _, s =>
    let (s, tasks) := release body s
    (undo s, if (result? cleanup).isSome then tasks else tasks ++ [cleanup])
  | .first l r _, s =>
    let (s, tl) := release l s
    let (s, tr) := release r s
    (s, tl ++ tr)
  | .join n cs _ _, s =>
    (List.finRange n).foldl (fun (acc : σ × List (Proc σ Unit)) i =>
      let (s, ts) := release (cs i) acc.1
      (s, acc.2 ++ ts)) (s, [])
  | _, s => (s, [])

/-- The earliest timer a blocked process waits for. -/
def deadline {α : Type} : Proc σ α → Option Nat
  | .await _ d _ => d
  | .first l r _ => earlier (deadline l) (deadline r)
  | .join n cs _ _ => (List.finRange n).foldl (fun acc i => earlier acc (deadline (cs i))) none
  | .guard _ _ body _ => deadline body
  | _ => none
where
  /-- The earlier of two optional ticks. -/
  earlier : Option Nat → Option Nat → Option Nat
    | some a, some b => some (Nat.min a b)
    | some a, none => some a
    | none, b => b

end Proc

end ResilientAgent
