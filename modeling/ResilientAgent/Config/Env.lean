import ResilientAgent.Config.Basic
import ResilientAgent.Text.Blank

/-!
# Settings from the environment

`applyEnv` layers `AGENT_*` variables over a configuration, in a fixed order, stopping at the
first variable it cannot read. Values are trimmed before they are read: counts are unsigned
decimal integers with an optional `+`, durations are decimal float seconds (`inf` and `nan`
are read, and then refused as durations). A value that cannot be read is reported quoted, as it
was given.
-/

namespace ResilientAgent

/-- An unsigned decimal integer below `2^bits`, with an optional leading `+`. -/
def parseUnsigned? (bits : Nat) (text : String) : Option Nat :=
  let digits := match text.toList with
    | '+' :: rest => rest
    | cs => cs
  if digits.isEmpty || !digits.all Char.isDigit then none
  else
    let value := digits.foldl (fun acc c => acc * 10 + (c.toNat - '0'.toNat)) 0
    if value < Nat.pow 2 bits then some value else none

namespace RuntimeConfig

def unreadable (key raw : String) : AgentError :=
  .config (key ++ ": cannot parse " ++ Text.quoted raw)

/-- A count from a variable. -/
def envCount (bits : Nat) (key raw : String) : Except AgentError Nat :=
  match parseUnsigned? bits (Text.trimBlank raw) with
  | some n => .ok n
  | none => .error (unreadable key raw)

/-- A float from a variable. -/
def envFloat (key raw : String) : Except AgentError Float :=
  match Numeral.parseFloat? (Text.trimBlank raw) with
  | some x => .ok x
  | none => .error (unreadable key raw)

/-- A duration in float seconds from a variable. -/
def envSeconds (key raw : String) : Except AgentError Duration := do
  let x ← envFloat key raw
  match Duration.ofSecsFloat? x with
  | .ok d => .ok d
  | .error _ => .error (.config (key ++ ": invalid duration " ++ Numeral.floatPlainText x))

/-- The configuration with the variables `lookup` knows layered over it. -/
def applyEnv (c : RuntimeConfig) (lookup : String → Option String) :
    Except AgentError RuntimeConfig := do
  let mut c := c
  if let some v := lookup "AGENT_DATABASE_URL" then c := { c with databaseUrl := v }
  if let some v := lookup "AGENT_BIND" then c := { c with server.bind := v }
  if let some v := lookup "AGENT_MODEL" then c := { c with provider.model := v }
  if let some v := lookup "AGENT_API_BASE" then c := { c with provider.apiBase := some v }
  if let some v := lookup "AGENT_MAX_ITERATIONS" then
    c := { c with agent.maxIterations := ← envCount 64 "AGENT_MAX_ITERATIONS" v }
  if let some v := lookup "AGENT_MAX_RETRIES" then
    c := { c with retry.maxRetries := ← envCount 64 "AGENT_MAX_RETRIES" v }
  if let some v := lookup "AGENT_TOOL_TIMEOUT" then
    c := { c with timeouts.tool := ← envSeconds "AGENT_TOOL_TIMEOUT" v }
  if let some v := lookup "AGENT_LLM_TIMEOUT" then
    c := { c with timeouts.modelCall := ← envSeconds "AGENT_LLM_TIMEOUT" v }
  if let some v := lookup "AGENT_TOTAL_TIMEOUT" then
    c := { c with timeouts.request := ← envSeconds "AGENT_TOTAL_TIMEOUT" v }
  if let some v := lookup "AGENT_WORKERS" then
    c := { c with worker.concurrency := ← envCount 64 "AGENT_WORKERS" v }
  if let some v := lookup "AGENT_MAX_QUEUE_DEPTH" then
    c := { c with queue.maxQueueDepth := ← envCount 64 "AGENT_MAX_QUEUE_DEPTH" v }
  if let some v := lookup "AGENT_LEASE_TTL" then
    c := { c with queue.leaseTtl := ← envSeconds "AGENT_LEASE_TTL" v }
  if let some v := lookup "AGENT_BREAKER_THRESHOLD" then
    c := { c with breaker.failureThreshold := ← envCount 32 "AGENT_BREAKER_THRESHOLD" v }
  if let some v := lookup "AGENT_BREAKER_RECOVERY" then
    c := { c with breaker.recoveryTimeout := ← envSeconds "AGENT_BREAKER_RECOVERY" v }
  if let some v := lookup "AGENT_LLM_RATE" then
    let rate ← envFloat "AGENT_LLM_RATE" v
    let capacity := c.rateLimit.model.bind (·.capacity)
    c := { c with rateLimit.model := some ⟨rate, capacity⟩ }
  return c

end RuntimeConfig

end ResilientAgent
