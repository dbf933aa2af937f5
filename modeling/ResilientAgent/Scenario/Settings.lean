import ResilientAgent.Config.Env
import ResilientAgent.Config.Toml
import ResilientAgent.Scenario.Failure

/-!
# Settings in scenarios

Scenarios that build a configuration from a settings file, from environment variables or step
by step, and report it, or the fault that stopped it. A fault that stops a whole scenario is
reported as the error's object together with its case name and message.
-/

namespace ResilientAgent

namespace Scenario

def failedJson (e : AgentError) : Json :=
  match agentErrorJson e with
  | .object fields =>
    Json.obj (fields ++ [("error", .string (AgentError.caseName e)), ("message", .string e.display)])
  | other => other

def failedAtJson (e : AgentError) (stage : String) : Json :=
  match failedJson e with
  | .object fields => Json.obj (fields ++ [("stage", .string stage)])
  | other => other

def configJson (c : RuntimeConfig) : Json := .object [("config", c.toJson)]

def configFromToml (request : Json) : Option Json := do
  let text ← request.read "toml" Json.str?
  return match RuntimeConfig.ofToml? text with
    | none => Json.obj [("error", .string "Config"), ("stage", .string "parse")]
    | some c => match c.validate with
      | .ok () => configJson c
      | .error e => failedJson e

def configFromEnv (request : Json) : Option Json := do
  let vars ← request.read "vars" Json.object?
  let values ← vars.mapM fun (k, v) => do return (k, ← v.str?)
  let lookup (name : String) : Option String := (values.find? (·.1 == name)).map (·.2)
  let staged := !(← request.readOr "process" Json.bool? false)
  let fail (e : AgentError) (stage : String) : Json :=
    if staged then failedAtJson e stage else failedJson e
  return match ({} : RuntimeConfig).applyEnv lookup with
    | .error e => fail e "apply"
    | .ok c => match c.validate with
      | .ok () => configJson c
      | .error e => fail e "validate"

def durationPair? (j : Json) : Option (Duration × Duration) :=
  match j with
  | .array [a, b] => do return (← duration? a, ← duration? b)
  | _ => none

def builderStep (c : RuntimeConfig) (call : Json) : Option RuntimeConfig := do
  match call with
  | .object [(name, arg)] =>
    match name with
    | "max_iterations" => return { c with agent.maxIterations := ← arg.u64? }
    | "max_retries" => return { c with retry.maxRetries := ← arg.u64? }
    | "retry_delays" =>
      let (initial, max) ← durationPair? arg
      return { c with retry.initialDelay := initial, retry.maxDelay := max }
    | "jitter" => return { c with retry.jitter := ← arg.bool? }
    | "breaker" =>
      match arg with
      | .array [threshold, recovery] =>
        return { c with breaker := ⟨← threshold.u32?, ← duration? recovery⟩ }
      | _ => none
    | "model_rate_limit" =>
      return { c with rateLimit.model := ← typed (Node.option BucketConfig.decode) arg }
    | "tool_rate_limit" =>
      return { c with rateLimit.tools := ← typed (Node.option BucketConfig.decode) arg }
    | "timeouts" =>
      match arg with
      | .array [tool, modelCall, request] =>
        return { c with timeouts := ⟨← duration? tool, ← duration? modelCall, ← duration? request⟩ }
      | _ => none
    | "lease_ttl" => return { c with queue.leaseTtl := ← duration? arg }
    | "workers" => return { c with worker.concurrency := ← arg.u64? }
    | "idle_backoff" =>
      let (min, max) ← durationPair? arg
      return { c with worker.idleBackoffMin := min, worker.idleBackoffMax := max }
    | "database_url" => return { c with databaseUrl := ← arg.str? }
    | _ => none
  | _ => none

def configFromBuilder (request : Json) : Option Json := do
  let calls ← request.read "calls" Json.array?
  let c ← calls.foldlM builderStep {}
  return match c.validate with
    | .ok () => configJson c
    | .error e => failedJson e

end Scenario

end ResilientAgent
