import ResilientAgent.Service.World
import ResilientAgent.Scenario.Records

/-!
# Scripted sessions

A stateful scenario is a list of ops run one after another in one session, so that the world,
its store and the tasks left running carry over from op to op. Two kinds of op are the same in
every scenario: a clock op (`advance` by a duration or `set` to an instant) moves the scripted
wall clock and answers where it stands, and `close_store` closes a store kept in a database.
Every other op is read by the scenario into an action whose value is the op's answer. A
session that a broken invariant stops runs no further ops.
-/

namespace ResilientAgent

namespace Scenario

def backend? (j : Json) : Option Backend :=
  match j with
  | .string "memory" => some .memory
  | .string "sqlite" => some .database
  | _ => none

def backendOf (request : Json) : Option Backend := request.readOr "backend" backend? .memory

/-- A fresh world over `store` kept on backend `b`; a database runs on the scripted clock
alone. -/
def worldOn (b : Backend) (store : Store := {}) : World :=
  { timed := b == .memory, store := { store with backend := b } }

def eventMark : Action Nat := .read fun w => .pure w.events.size

def eventsFrom (start : Nat) : Action Json := .read fun w =>
  .pure (.array ((w.events.toList.drop start).map (RuntimeEvent.toJson w.timed)))

def commonOp (s : Session) (op : Json) : Option (Option (Json × Session)) :=
  if op.has "advance" || op.has "set" then
    some <| match clockStep s.world.manual op with
      | some manual =>
        let w := { s.world with manual }
        some (.object [("now", instantJson w.now)], { s with world := w })
      | none => none
  else if op.has "close_store" then
    some <|
      if s.world.store.backend != .database then none
      else
        let w := { s.world with store := { s.world.store with closed := true } }
        some (.object [("closed", .bool true)], { s with world := w })
  else none

/-- Runs the ops in one session, reading each other op with `step`, which is told the op's
place in the list and may also keep a scenario state of its own; the answers, the session and
the state after them, or nothing if an op cannot be read or its action never finishes. -/
def playOpsAt {τ : Type} (s : Session) (state : τ) (ops : List Json)
    (step : τ → Nat → Json → Option (Action (Json × τ))) : Option (List Json × Session × τ) :=
  ops.zipIdx.foldl (fun (acc : Option (List Json × Session × τ)) (op, index) =>
    match acc with
    | none => none
    | some (answers, s, t) =>
      if s.world.halted.isSome then some (answers, s, t) else
      match commonOp s op with
      | some (some (a, s)) => some (answers ++ [a], s, t)
      | some none => none
      | none =>
        match step t index op with
        | none => none
        | some action =>
          match s.perform action with
          | (some (a, t), s) => some (answers ++ [a], s, t)
          | (none, _) => none) (some ([], s, state))

/-- Runs the ops in one session as `playOpsAt` does, for a `step` that does not need the op's
place. -/
def playOpsFrom {τ : Type} (s : Session) (state : τ) (ops : List Json)
    (step : τ → Json → Option (Action (Json × τ))) : Option (List Json × Session × τ) :=
  playOpsAt s state ops fun t _ op => step t op

/-- The answers to the ops of a session started in world `w`, as the `ops` member of an
answer, with a scenario state starting at `state`; a session stopped by a broken invariant
answers with the reason alone. -/
def playOpsWith {τ : Type} (w : World) (state : τ) (ops : List Json)
    (step : τ → Json → Option (Action (Json × τ))) : Option Json :=
  (playOpsFrom (Session.ofWorld w) state ops step).map fun (answers, s, _) =>
    match s.world.halted with
    | some reason => haltedJson reason
    | none => .object [("ops", .array answers)]

/-- The answers to the ops of a session started in world `w`, as the `ops` member of an
answer. -/
def playOps (w : World) (ops : List Json) (step : Json → Option (Action Json)) : Option Json :=
  playOpsWith w () ops fun () op => (step op).map fun a => (·, ()) <$> a

end Scenario

end ResilientAgent
