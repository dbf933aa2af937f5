import ResilientAgent.Resilience.Backoff

/-!
# Dependency policies

Everything needed to guard the calls to one named dependency: the retry policy, the token
bucket every attempt spends from (if any), and the time bound of one attempt. The model API is
the dependency `llm-api`, with the model bucket and the model-call bound; each tool is the
dependency `tool:<name>`, sharing the bucket `tools` and bounded by its own timeout or the
configured tool timeout.
-/

namespace ResilientAgent

/-- How often, and after which delays, a failed call is tried again. -/
structure RetryPolicy where
  /-- Retries after the first attempt. -/
  maxRetries : Nat
  backoff : Backoff
  /-- Which failures are worth another attempt: by default the transient ones. -/
  retryable : Fault → Bool := fun e => e.kind.isRetryable
  deriving Inhabited

def RetryPolicy.ofConfig (c : RetryConfig) : RetryPolicy := { maxRetries := c.maxRetries, backoff := Backoff.ofConfig c }

def modelDependency : String := "llm-api"

def toolsResource : String := "tools"

/-- A token bucket by resource name. -/
structure BucketRef where
  resource : String
  config : BucketConfig
  deriving Inhabited

/-- The guards of one dependency. -/
structure DependencyPolicy where
  /-- Breaker and instrumentation key, such as `llm-api` or `tool:weather`. -/
  name : String
  retry : RetryPolicy
  bucket : Option BucketRef
  timeoutScope : TimeoutScope
  timeout : Duration
  deriving Inhabited

namespace DependencyPolicy

/-- The policy of the model API. -/
def model (c : RuntimeConfig) : DependencyPolicy :=
  { name := modelDependency, retry := RetryPolicy.ofConfig c.retry
    bucket := c.rateLimit.model.map (BucketRef.mk modelDependency)
    timeoutScope := .modelCall, timeout := c.timeouts.modelCall }

def toolName (tool : String) : String := "tool:" ++ tool

/-- The policy of a tool with an optional timeout of its own. -/
def tool (c : RuntimeConfig) (name : String) (timeout : Option Duration) : DependencyPolicy :=
  { name := toolName name, retry := RetryPolicy.ofConfig c.retry
    bucket := c.rateLimit.tools.map (BucketRef.mk toolsResource)
    timeoutScope := .tool, timeout := timeout.getD c.timeouts.tool }

end DependencyPolicy

end ResilientAgent
