import ResilientAgent.Daemon.Run
import ResilientAgent.Scenario.Jobs

/-!
# The daemon in scenarios

A daemon scenario starts the daemon with a command line, variables over a base environment
(the API listens on an ephemeral loopback port and the model's address is a closed port), the
files of its working directory and the jobs queued in its database. It is interrupted once it
has nothing left to do and a log line holding the scenario's text was written, or killed
otherwise.

The scenario reports the exit status (none when killed, with the signal that killed it), the
standard output as lines, the standard error as text, the log lines in sorted order and, when
jobs were queued, the jobs in the database and how many of them are still queued.
-/

namespace ResilientAgent

namespace Scenario

def baseEnvironment : List (String × String) :=
  [("AGENT_BIND", "127.0.0.1:0"), ("AGENT_API_BASE", "http://127.0.0.1:1/v1"),
    ("OPENAI_API_KEY", "sk-oracle-test"), ("RUST_LOG", "info")]

def daemonEnvironment (vars : List (String × String)) : List (String × String) :=
  baseEnvironment.filter (fun (k, _) => !vars.any (·.1 == k)) ++ vars

def daemonJobJson (j : Job) : Json :=
  match j.toJson with
  | .object fields =>
    .object (fields.filter fun (k, _) => ["attempts", "error", "job_id", "result", "status"].contains k)
  | other => other

def outputLines (text : String) : List String :=
  match (text.splitOn "\n").reverse with
  | "" :: rest => rest.reverse
  | parts => parts.reverse

def textMembers? (j : Json) : Option (List (String × String)) :=
  match j with
  | .object members => members.mapM fun (k, v) => (Json.str? v).map (k, ·)
  | _ => none

def daemonRun (request : Json) : Option Json := do
  let args ← request.readOr "args" (Json.readEach Json.str?) []
  let vars ← request.readOr "env" textMembers? []
  let files ← request.readOr "files" textMembers? []
  let interruptAfter ← request.readOpt "interrupt_after" Json.str?
  let jobs ← request.readOpt "jobs" (Json.readEach newJob?)
  let accepted := (jobs.getD []).filterMap fun j => j.toOption
  let workspace : Daemon.Workspace := ⟨files⟩
  let report := Id.run (Daemon.run workspace.probe ⟨args, daemonEnvironment vars⟩ accepted interruptAfter)
  let sorted := report.journal.mergeSort fun a b => decide (a ≤ b)
  let queue : List (String × Json) := match jobs with
    | some _ =>
      [("queue", .object [("depth", Json.nat report.jobs.depth),
        ("jobs", .array (report.jobs.slots.map fun s => daemonJobJson s.job))])]
    | none => []
  return .object ([("exit", Json.opt Json.nat report.status), ("interrupted", .bool report.interrupted),
    ("killed", .bool report.killed), ("logs", .array (sorted.map Json.string)),
    ("signal", if report.killed then Json.nat 9 else .null), ("stderr", .string report.stderr),
    ("stdout", .array ((outputLines report.stdout).map Json.string))] ++ queue)

end Scenario

end ResilientAgent
