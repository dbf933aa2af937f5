import ResilientAgent.Json.Decode
import ResilientAgent.Error

/-!
# Runtime configuration

One record carries every setting: retry and breaker policy, rate limits, the three nested
timeouts, loop bounds, queue and lease behaviour, worker pool sizing, conversation and
idempotency retention, the server address and the model endpoint.

In data, every section and every setting may be left out and then takes its default; durations
are written as float seconds. `validate` refuses settings the runtime cannot honour, the first
broken rule in a fixed order giving the message.
-/

namespace ResilientAgent

/-- Retry policy. -/
structure RetryConfig where
  /-- Retries after the first attempt. -/
  maxRetries : Nat := 3
  initialDelay : Duration := Duration.ofSecs 1
  maxDelay : Duration := Duration.ofSecs 60
  /-- The exponential base. -/
  base : Float := 2.0
  /-- Whether each delay is scaled by a random factor in `[0.5, 1.5)`. -/
  jitter : Bool := true
  deriving Inhabited, BEq

/-- Breaker policy, applied per dependency. -/
structure BreakerConfig where
  failureThreshold : Nat := 5
  recoveryTimeout : Duration := Duration.ofSecs 60
  deriving Inhabited, BEq

/-- One token bucket: tokens added per second, and the burst size (the rate when absent),
counted in `α`. -/
structure BucketRates (α : Type) where
  rate : α
  capacity : Option α := none
  deriving Inhabited, BEq

abbrev BucketConfig := BucketRates Float

def BucketRates.effectiveCapacity {α : Type} (b : BucketRates α) : α := b.capacity.getD b.rate

/-- Rate limits: a bucket for model calls, one shared by tool calls, and the longest wait. -/
structure RateLimitConfig where
  model : Option BucketConfig := some ⟨10.0, some 20.0⟩
  tools : Option BucketConfig := none
  maxWait : Duration := Duration.ofSecs 30
  deriving Inhabited, BEq

/-- The three nested time bounds. -/
structure TimeoutConfig where
  tool : Duration := Duration.ofSecs 30
  modelCall : Duration := Duration.ofSecs 30
  request : Duration := Duration.ofSecs 120
  deriving Inhabited, BEq

def defaultSystemPrompt : String :=
  "You are a helpful assistant. Use the available tools when they help answer the user."

/-- Loop options. -/
structure AgentConfig where
  maxIterations : Nat := 10
  systemPrompt : Option String := some defaultSystemPrompt
  maxTokens : Option Nat := some 1024
  /-- A binary32 value, held as the binary64 value it equals. -/
  temperature : Option Float := none
  /-- Whether the tool calls of one turn run concurrently. -/
  parallelTools : Bool := true
  /-- The most tool calls of one turn that run at once. -/
  toolConcurrency : Option Nat := none
  deriving Inhabited, BEq

/-- Queue and lease options. -/
structure QueueConfig where
  leaseTtl : Duration := Duration.ofSecs 150
  /-- Deliveries allowed per job, the first included. -/
  maxAttempts : Nat := 2
  retention : Duration := Duration.ofSecs 3600
  maxQueueDepth : Nat := 10000
  /-- Whether two jobs of one user may never be leased at once. -/
  serializePerUser : Bool := true
  reaperInterval : Duration := Duration.ofSecs 15
  deriving Inhabited, BEq

/-- Worker pool sizing. -/
structure WorkerConfig where
  concurrency : Nat := 4
  /-- Levels to poll, most urgent first; none means every level. -/
  priorities : List Nat := []
  idleBackoffMin : Duration := Duration.ofMillis 100
  idleBackoffMax : Duration := Duration.ofSecs 2
  deriving Inhabited, BEq

/-- Conversation retention. -/
structure ConversationConfig where
  ttl : Duration := Duration.ofSecs 3600
  maxMessages : Nat := 50
  deriving Inhabited, BEq

structure IdempotencyConfig where
  ttl : Duration := Duration.ofSecs 86400
  deriving Inhabited, BEq

structure ServerConfig where
  bind : String := "0.0.0.0:8000"
  deriving Inhabited, BEq

/-- The model endpoint. -/
structure ProviderConfig where
  model : String := "gpt-4o-mini"
  apiBase : Option String := none
  deriving Inhabited, BEq

/-- Every setting of the runtime. -/
structure RuntimeConfig where
  retry : RetryConfig := {}
  breaker : BreakerConfig := {}
  rateLimit : RateLimitConfig := {}
  timeouts : TimeoutConfig := {}
  agent : AgentConfig := {}
  queue : QueueConfig := {}
  worker : WorkerConfig := {}
  conversation : ConversationConfig := {}
  idempotency : IdempotencyConfig := {}
  server : ServerConfig := {}
  provider : ProviderConfig := {}
  databaseUrl : String := "sqlite:agent-runtime.db?mode=rwc"
  deriving Inhabited, BEq

namespace RuntimeConfig

/-- The first rule the settings break, in this order: at least one iteration, a breaker
threshold of at least one, a retry base of at least one, positive bucket rates and sizes,
at least one delivery, a lease longer than the request timeout, at least one worker, and
priorities within `0..=9`. -/
def validate (c : RuntimeConfig) : Except AgentError Unit := do
  if c.agent.maxIterations == 0 then throw (.config "agent.max_iterations must be at least 1")
  if c.breaker.failureThreshold == 0 then
    throw (.config "breaker.failure_threshold must be at least 1")
  if c.retry.base < 1.0 then throw (.config "retry.base must be >= 1.0")
  for (name, bucket) in [("model", c.rateLimit.model), ("tools", c.rateLimit.tools)] do
    if let some b := bucket then
      if b.rate ≤ 0.0 || b.effectiveCapacity ≤ 0.0 then
        throw (.config ("rate_limit." ++ name ++ ": rate and capacity must be positive"))
  if c.queue.maxAttempts == 0 then throw (.config "queue.max_attempts must be at least 1")
  if c.queue.leaseTtl ≤ c.timeouts.request then
    throw (.config ("queue.lease_ttl (" ++ c.queue.leaseTtl.debugText ++
      ") must exceed timeouts.request (" ++ c.timeouts.request.debugText ++ ")"))
  if c.worker.concurrency == 0 then throw (.config "worker.concurrency must be at least 1")
  if c.worker.priorities.any (· > 9) then
    throw (.config "worker.priorities must be within 0..=9")

end RuntimeConfig

/-! ## JSON forms -/

def secondsJson (d : Duration) : Json := Json.float d.toSecsFloat

def BucketConfig.toJson (b : BucketConfig) : Json :=
  .object [("rate", Json.float b.rate), ("capacity", Json.opt Json.float b.capacity)]

def RetryConfig.toJson (c : RetryConfig) : Json :=
  .object [("max_retries", Json.nat c.maxRetries), ("initial_delay", secondsJson c.initialDelay),
    ("max_delay", secondsJson c.maxDelay), ("base", Json.float c.base), ("jitter", .bool c.jitter)]

def BreakerConfig.toJson (c : BreakerConfig) : Json :=
  .object [("failure_threshold", Json.nat c.failureThreshold),
    ("recovery_timeout", secondsJson c.recoveryTimeout)]

/-- The JSON form of the whole configuration. -/
def RuntimeConfig.toJson (c : RuntimeConfig) : Json :=
  .object [
    ("retry", c.retry.toJson),
    ("breaker", c.breaker.toJson),
    ("rate_limit", .object [("model", Json.opt BucketConfig.toJson c.rateLimit.model),
      ("tools", Json.opt BucketConfig.toJson c.rateLimit.tools),
      ("max_wait", secondsJson c.rateLimit.maxWait)]),
    ("timeouts", .object [("tool", secondsJson c.timeouts.tool),
      ("model_call", secondsJson c.timeouts.modelCall), ("request", secondsJson c.timeouts.request)]),
    ("agent", .object [("max_iterations", Json.nat c.agent.maxIterations),
      ("system_prompt", Json.opt Json.string c.agent.systemPrompt),
      ("max_tokens", Json.opt Json.nat c.agent.maxTokens),
      ("temperature", Json.opt Json.float c.agent.temperature),
      ("parallel_tools", .bool c.agent.parallelTools),
      ("tool_concurrency", Json.opt Json.nat c.agent.toolConcurrency)]),
    ("queue", .object [("lease_ttl", secondsJson c.queue.leaseTtl),
      ("max_attempts", Json.nat c.queue.maxAttempts), ("retention", secondsJson c.queue.retention),
      ("max_queue_depth", Json.nat c.queue.maxQueueDepth),
      ("serialize_per_user", .bool c.queue.serializePerUser),
      ("reaper_interval", secondsJson c.queue.reaperInterval)]),
    ("worker", .object [("concurrency", Json.nat c.worker.concurrency),
      ("priorities", .array (c.worker.priorities.map Json.nat)),
      ("idle_backoff_min", secondsJson c.worker.idleBackoffMin),
      ("idle_backoff_max", secondsJson c.worker.idleBackoffMax)]),
    ("conversation", .object [("ttl", secondsJson c.conversation.ttl),
      ("max_messages", Json.nat c.conversation.maxMessages)]),
    ("idempotency", .object [("ttl", secondsJson c.idempotency.ttl)]),
    ("server", .object [("bind", .string c.server.bind)]),
    ("provider", .object [("model", .string c.provider.model),
      ("api_base", Json.opt Json.string c.provider.apiBase)]),
    ("database_url", .string c.databaseUrl)]

/-! ## Reading -/

namespace Node

def seconds : Decoder Duration :=
  refine f64 fun x => (Duration.ofSecsFloat? x).mapError Duration.FloatSecondsError.message

end Node

/-- A bucket: `rate` required. -/
def BucketConfig.decode (surplus : Surplus := .refused) : Decoder BucketConfig := fun n => do
  let ms ← n.recordOrItemsWith "struct BucketConfig"
    [Node.field "rate" Node.f64, Node.field "capacity" (Node.option Node.f64)] ["rate"] ["rate"] surplus
  return ⟨Members.getD ms "rate" Node.f64 0.0, Members.getD ms "capacity" (Node.option Node.f64) none⟩

/-- A retry policy; absent settings keep their defaults. -/
def RetryConfig.decode (surplus : Surplus := .refused) : Decoder RetryConfig := fun n => do
  let ms ← n.recordOrItemsWith "struct RetryConfig"
    [Node.field "max_retries" Node.usize, Node.field "initial_delay" Node.seconds,
     Node.field "max_delay" Node.seconds, Node.field "base" Node.f64, Node.field "jitter" Node.bool] [] [] surplus
  let d : RetryConfig := {}
  return { maxRetries := Members.getD ms "max_retries" Node.usize d.maxRetries
           initialDelay := Members.getD ms "initial_delay" Node.seconds d.initialDelay
           maxDelay := Members.getD ms "max_delay" Node.seconds d.maxDelay
           base := Members.getD ms "base" Node.f64 d.base
           jitter := Members.getD ms "jitter" Node.bool d.jitter }

/-- A breaker policy; absent settings keep their defaults. -/
def BreakerConfig.decode (surplus : Surplus := .refused) : Decoder BreakerConfig := fun n => do
  let ms ← n.recordOrItemsWith "struct BreakerConfig"
    [Node.field "failure_threshold" Node.u32, Node.field "recovery_timeout" Node.seconds] [] [] surplus
  let d : BreakerConfig := {}
  return { failureThreshold := Members.getD ms "failure_threshold" Node.u32 d.failureThreshold
           recoveryTimeout := Members.getD ms "recovery_timeout" Node.seconds d.recoveryTimeout }

/-- Rate limits; absent settings keep their defaults. -/
def RateLimitConfig.decode (surplus : Surplus := .refused) : Decoder RateLimitConfig := fun n => do
  let bucket := Node.option (BucketConfig.decode surplus)
  let ms ← n.recordOrItemsWith "struct RateLimitConfig"
    [Node.field "model" bucket, Node.field "tools" bucket, Node.field "max_wait" Node.seconds] [] [] surplus
  let d : RateLimitConfig := {}
  return { model := Members.getD ms "model" bucket d.model
           tools := Members.getD ms "tools" bucket d.tools
           maxWait := Members.getD ms "max_wait" Node.seconds d.maxWait }

/-- Timeouts; absent settings keep their defaults. -/
def TimeoutConfig.decode (surplus : Surplus := .refused) : Decoder TimeoutConfig := fun n => do
  let ms ← n.recordOrItemsWith "struct TimeoutConfig"
    [Node.field "tool" Node.seconds, Node.field "model_call" Node.seconds,
     Node.field "request" Node.seconds] [] [] surplus
  let d : TimeoutConfig := {}
  return { tool := Members.getD ms "tool" Node.seconds d.tool
           modelCall := Members.getD ms "model_call" Node.seconds d.modelCall
           request := Members.getD ms "request" Node.seconds d.request }

/-- Loop options; absent settings keep their defaults, and `null` clears an optional one. -/
def AgentConfig.decode (surplus : Surplus := .refused) : Decoder AgentConfig := fun n => do
  let ms ← n.recordOrItemsWith "struct AgentConfig"
    [Node.field "max_iterations" Node.usize, Node.field "system_prompt" (Node.option Node.string),
     Node.field "max_tokens" (Node.option Node.u32), Node.field "temperature" (Node.option Node.f32),
     Node.field "parallel_tools" Node.bool, Node.field "tool_concurrency" (Node.option Node.usize)] [] [] surplus
  let d : AgentConfig := {}
  return { maxIterations := Members.getD ms "max_iterations" Node.usize d.maxIterations
           systemPrompt := Members.getD ms "system_prompt" (Node.option Node.string) d.systemPrompt
           maxTokens := Members.getD ms "max_tokens" (Node.option Node.u32) d.maxTokens
           temperature := Members.getD ms "temperature" (Node.option Node.f32) d.temperature
           parallelTools := Members.getD ms "parallel_tools" Node.bool d.parallelTools
           toolConcurrency := Members.getD ms "tool_concurrency" (Node.option Node.usize) d.toolConcurrency }

/-- Queue options; absent settings keep their defaults. -/
def QueueConfig.decode (surplus : Surplus := .refused) : Decoder QueueConfig := fun n => do
  let ms ← n.recordOrItemsWith "struct QueueConfig"
    [Node.field "lease_ttl" Node.seconds, Node.field "max_attempts" Node.u32,
     Node.field "retention" Node.seconds, Node.field "max_queue_depth" Node.usize,
     Node.field "serialize_per_user" Node.bool, Node.field "reaper_interval" Node.seconds] [] [] surplus
  let d : QueueConfig := {}
  return { leaseTtl := Members.getD ms "lease_ttl" Node.seconds d.leaseTtl
           maxAttempts := Members.getD ms "max_attempts" Node.u32 d.maxAttempts
           retention := Members.getD ms "retention" Node.seconds d.retention
           maxQueueDepth := Members.getD ms "max_queue_depth" Node.usize d.maxQueueDepth
           serializePerUser := Members.getD ms "serialize_per_user" Node.bool d.serializePerUser
           reaperInterval := Members.getD ms "reaper_interval" Node.seconds d.reaperInterval }

/-- Worker sizing; absent settings keep their defaults. -/
def WorkerConfig.decode (surplus : Surplus := .refused) : Decoder WorkerConfig := fun n => do
  let ms ← n.recordOrItemsWith "struct WorkerConfig"
    [Node.field "concurrency" Node.usize, Node.field "priorities" (Node.list Node.u8),
     Node.field "idle_backoff_min" Node.seconds, Node.field "idle_backoff_max" Node.seconds] [] [] surplus
  let d : WorkerConfig := {}
  return { concurrency := Members.getD ms "concurrency" Node.usize d.concurrency
           priorities := Members.getD ms "priorities" (Node.list Node.u8) d.priorities
           idleBackoffMin := Members.getD ms "idle_backoff_min" Node.seconds d.idleBackoffMin
           idleBackoffMax := Members.getD ms "idle_backoff_max" Node.seconds d.idleBackoffMax }

/-- Conversation retention; absent settings keep their defaults. -/
def ConversationConfig.decode (surplus : Surplus := .refused) : Decoder ConversationConfig := fun n => do
  let ms ← n.recordOrItemsWith "struct ConversationConfig"
    [Node.field "ttl" Node.seconds, Node.field "max_messages" Node.usize] [] [] surplus
  let d : ConversationConfig := {}
  return { ttl := Members.getD ms "ttl" Node.seconds d.ttl
           maxMessages := Members.getD ms "max_messages" Node.usize d.maxMessages }

def IdempotencyConfig.decode (surplus : Surplus := .refused) : Decoder IdempotencyConfig := fun n => do
  let ms ← n.recordOrItemsWith "struct IdempotencyConfig" [Node.field "ttl" Node.seconds] [] [] surplus
  return { ttl := Members.getD ms "ttl" Node.seconds ({} : IdempotencyConfig).ttl }

def ServerConfig.decode (surplus : Surplus := .refused) : Decoder ServerConfig := fun n => do
  let ms ← n.recordOrItemsWith "struct ServerConfig" [Node.field "bind" Node.string] [] [] surplus
  return { bind := Members.getD ms "bind" Node.string ({} : ServerConfig).bind }

/-- The model endpoint; absent settings keep their defaults. -/
def ProviderConfig.decode (surplus : Surplus := .refused) : Decoder ProviderConfig := fun n => do
  let ms ← n.recordOrItemsWith "struct ProviderConfig"
    [Node.field "model" Node.string, Node.field "api_base" (Node.option Node.string)] [] [] surplus
  let d : ProviderConfig := {}
  return { model := Members.getD ms "model" Node.string d.model
           apiBase := Members.getD ms "api_base" (Node.option Node.string) d.apiBase }

/-- The whole configuration; absent sections keep their defaults. -/
def RuntimeConfig.decode (surplus : Surplus := .refused) : Decoder RuntimeConfig := fun n => do
  let ms ← n.recordOrItemsWith "struct RuntimeConfig"
    [Node.field "retry" (RetryConfig.decode surplus), Node.field "breaker" (BreakerConfig.decode surplus),
     Node.field "rate_limit" (RateLimitConfig.decode surplus), Node.field "timeouts" (TimeoutConfig.decode surplus),
     Node.field "agent" (AgentConfig.decode surplus), Node.field "queue" (QueueConfig.decode surplus),
     Node.field "worker" (WorkerConfig.decode surplus), Node.field "conversation" (ConversationConfig.decode surplus),
     Node.field "idempotency" (IdempotencyConfig.decode surplus), Node.field "server" (ServerConfig.decode surplus),
     Node.field "provider" (ProviderConfig.decode surplus), Node.field "database_url" Node.string] [] [] surplus
  let d : RuntimeConfig := {}
  return { retry := Members.getD ms "retry" (RetryConfig.decode surplus) d.retry
           breaker := Members.getD ms "breaker" (BreakerConfig.decode surplus) d.breaker
           rateLimit := Members.getD ms "rate_limit" (RateLimitConfig.decode surplus) d.rateLimit
           timeouts := Members.getD ms "timeouts" (TimeoutConfig.decode surplus) d.timeouts
           agent := Members.getD ms "agent" (AgentConfig.decode surplus) d.agent
           queue := Members.getD ms "queue" (QueueConfig.decode surplus) d.queue
           worker := Members.getD ms "worker" (WorkerConfig.decode surplus) d.worker
           conversation := Members.getD ms "conversation" (ConversationConfig.decode surplus) d.conversation
           idempotency := Members.getD ms "idempotency" (IdempotencyConfig.decode surplus) d.idempotency
           server := Members.getD ms "server" (ServerConfig.decode surplus) d.server
           provider := Members.getD ms "provider" (ProviderConfig.decode surplus) d.provider
           databaseUrl := Members.getD ms "database_url" Node.string d.databaseUrl }

end ResilientAgent
