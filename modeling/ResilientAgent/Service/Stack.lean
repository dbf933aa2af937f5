import ResilientAgent.Service.Breaker
import ResilientAgent.Service.Bucket
import ResilientAgent.Service.Idempotency
import ResilientAgent.Resilience.Retry
import ResilientAgent.Idempotency.Key
import ResilientAgent.Tools.Tool

/-!
# The resilience stack

The guards of one dependency, composed in a fixed order, outermost first: the breaker, the
retry policy, idempotency (for side-effecting tools only), the token bucket, instrumentation,
the time bound, and the call itself. The breaker therefore sees one outcome per sequence of
retries, every attempt spends its own token and is bounded on its own, and the `call` event
reports each attempt, a timed-out one included.

A `Resilience` holds the configuration and builds guarded model and tool services from it;
every service it builds shares the breakers, buckets and remembered results of the store.
-/

namespace ResilientAgent

abbrev Guarded (α β : Type) := α → Action (Except Fault β)

abbrev ModelService := Guarded ModelRequest ModelResponse

/-- Tool answers kept as JSON strings. -/
def textKeeping : Keeping String :=
  ⟨quoteJson, fun text =>
    match Json.parse text with
    | .ok (.string s) => .ok s
    | .ok other => .error (.json (JsonError.invalidType (other.unexpected .shortest) "a string"))
    | .error e => .error (.json e)⟩

structure Resilience where
  config : RuntimeConfig
  deriving Inhabited

namespace Resilience

def breakers (r : Resilience) : BreakerRegistry := ⟨r.config.breaker, []⟩

def idempotency (r : Resilience) : IdempotencyGuard := ⟨r.config.idempotency.ttl⟩

def bucket (r : Resilience) (b : BucketRef) : TokenBucket :=
  { resource := b.resource, config := b.config, maxWait := some r.config.rateLimit.maxWait }

def modelPolicy (r : Resilience) : DependencyPolicy := DependencyPolicy.model r.config

def toolPolicy (r : Resilience) (t : ToolDef) : DependencyPolicy :=
  DependencyPolicy.tool r.config t.name t.timeout

/-- One attempt: a token, then, in the span of a dependency call, the time bound around `svc` and
the record of how the call went. -/
def guardAttempt {α β : Type} (r : Resilience) (p : DependencyPolicy) (svc : Guarded α β) :
    Guarded α β := fun req => do
  if let some b := p.bucket then
    if !(← (r.bucket b).consume 1.0 true) then
      return .error (.agent (.rateLimited b.resource))
  Action.inSpan ⟨"dependency_call", .events, [("dependency", p.name)]⟩ do
    let result ← match ← Action.within p.timeout (svc req) with
      | some result => pure result
      | none => pure (.error (.agent (.timeout p.timeoutScope p.timeout)))
    let outcome := match result with
      | .ok _ => CallOutcome.ok
      | .error e => .failed e.kind
    Action.record (.call p.name Duration.zero outcome)
    return result

/-- A sequence of attempts: the breaker around the retry policy around `attempt`. -/
def guardSequence {α β : Type} (r : Resilience) (p : DependencyPolicy) (attempt : Guarded α β) :
    Guarded α β := fun req =>
  (r.breakers.get p.name).call (p.retry.execute p.name fun _ => attempt req)

def wrap {α β : Type} (r : Resilience) (p : DependencyPolicy) (svc : Guarded α β) : Guarded α β :=
  r.guardSequence p (r.guardAttempt p svc)

def modelService (r : Resilience) (raw : ModelService) : ModelService := r.wrap r.modelPolicy raw

/-- A tool call deduplicated by its request scope, tool name and arguments. -/
def idempotent (r : Resilience) (attempt : ToolService) : ToolService := fun inv => do
  let key := IdempotencyKey.forToolCall inv.scope inv.name inv.arguments
  let content ← r.idempotency.ensure key.text textKeeping do
    return (← attempt inv).map (·.content)
  return content.map fun c => ⟨inv.id, c⟩

/-- A tool's service as the router sees it. -/
def toolService (r : Resilience) (t : ToolDef) : ToolService :=
  let p := r.toolPolicy t
  let attempt := r.guardAttempt p t.service
  r.guardSequence p (if t.sideEffecting then r.idempotent attempt else attempt)

end Resilience

end ResilientAgent
