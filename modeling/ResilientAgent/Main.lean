import ResilientAgent.Daemon.Run

/-!
# The daemon's command line

`agentd serve`, `agentd api` and `agentd worker` run the daemon in the current directory, over
the daemon's variables of the process environment. The daemon's files are read from the file
system; what cannot be read is reported as the system reports it. The run goes on until the
daemon has nothing left to do, and then it is interrupted as by Ctrl-C.

The daemon's help goes to the standard output, its refusals and failures to the standard
error, and its log lines to the standard output after them. The exit status is the daemon's.
-/

namespace ResilientAgent

namespace Daemon

/-- The variables the daemon reads from its environment. -/
def readVariables : List String :=
  ["AGENT_CONFIG", "RUST_LOG", "AGENT_DATABASE_URL", "AGENT_BIND", "AGENT_MODEL",
    "AGENT_API_BASE", "AGENT_MAX_ITERATIONS", "AGENT_MAX_RETRIES", "AGENT_TOOL_TIMEOUT",
    "AGENT_LLM_TIMEOUT", "AGENT_TOTAL_TIMEOUT", "AGENT_WORKERS", "AGENT_MAX_QUEUE_DEPTH",
    "AGENT_LEASE_TTL", "AGENT_BREAKER_THRESHOLD", "AGENT_BREAKER_RECOVERY", "AGENT_LLM_RATE",
    "OPENAI_API_KEY"]

/-- What a path of the file system names: a file with its text, a directory (which cannot be
read as a file), or nothing. -/
def systemProbe : Probe IO := fun path => do
  try
    let text ← IO.FS.readFile path
    return .ok (.file text)
  catch e =>
    return match e with
      | .inappropriateType _ code _ =>
        if code == 21 || code == 4294967275 then .ok .directory else .error .notDirectory
      | _ => .error .notFound

end Daemon

end ResilientAgent

/-- Runs the daemon with the command line's arguments. -/
def main (args : List String) : IO UInt32 := do
  let env ← ResilientAgent.Daemon.readVariables.filterMapM fun name => do
    return (← IO.getEnv name).map (name, ·)
  let report ← ResilientAgent.Daemon.run ResilientAgent.Daemon.systemProbe ⟨args, env⟩ [] (some "")
  IO.print report.stdout
  IO.eprint report.stderr
  for line in report.journal do
    IO.println line
  return (report.status.getD 137).toUInt32
