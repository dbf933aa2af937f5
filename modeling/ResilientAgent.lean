import ResilientAgent.Agent.Builder
import ResilientAgent.Agent.Loop
import ResilientAgent.Agent.Pool
import ResilientAgent.Agent.Run
import ResilientAgent.Agent.Step
import ResilientAgent.Agent.Worker
import ResilientAgent.Config.Basic
import ResilientAgent.Config.Env
import ResilientAgent.Config.Toml
import ResilientAgent.Config.Toml.Document
import ResilientAgent.Config.Toml.Scalar
import ResilientAgent.Conversation.Item
import ResilientAgent.Conversation.State
import ResilientAgent.Daemon.Address
import ResilientAgent.Daemon.Calculator
import ResilientAgent.Daemon.CommandLine
import ResilientAgent.Daemon.Dotenv
import ResilientAgent.Daemon.Launch
import ResilientAgent.Daemon.Run
import ResilientAgent.Daemon.Workspace
import ResilientAgent.Digest.Sha256
import ResilientAgent.Error
import ResilientAgent.Idempotency.Key
import ResilientAgent.Jobs.Job
import ResilientAgent.Jobs.Queue
import ResilientAgent.Json.Decode
import ResilientAgent.Json.Node
import ResilientAgent.Json.Parse
import ResilientAgent.Json.Print
import ResilientAgent.Json.Value
import ResilientAgent.Main
import ResilientAgent.Numeral.Binary
import ResilientAgent.Numeral.Shortest
import ResilientAgent.Numeral.Text
import ResilientAgent.Observe.Event
import ResilientAgent.Observe.Filter
import ResilientAgent.Process.Basic
import ResilientAgent.Process.Gate
import ResilientAgent.Process.Schedule
import ResilientAgent.Provider.ChatCompletions
import ResilientAgent.Provider.ClientError
import ResilientAgent.Provider.Reply
import ResilientAgent.Provider.Scripted
import ResilientAgent.Resilience.Backoff
import ResilientAgent.Resilience.Breaker
import ResilientAgent.Resilience.Bucket
import ResilientAgent.Resilience.Policy
import ResilientAgent.Resilience.Retry
import ResilientAgent.Scenario.Agent
import ResilientAgent.Scenario.Api
import ResilientAgent.Scenario.Codec
import ResilientAgent.Scenario.Completions
import ResilientAgent.Scenario.Daemon
import ResilientAgent.Scenario.Failure
import ResilientAgent.Scenario.Guards
import ResilientAgent.Scenario.Jobs
import ResilientAgent.Scenario.Model
import ResilientAgent.Scenario.Observe
import ResilientAgent.Scenario.Policies
import ResilientAgent.Scenario.Pool
import ResilientAgent.Scenario.Provider
import ResilientAgent.Scenario.Records
import ResilientAgent.Scenario.Session
import ResilientAgent.Scenario.Settings
import ResilientAgent.Scenario.Stack
import ResilientAgent.Scenario.Timing
import ResilientAgent.Scenario.Tools
import ResilientAgent.Scenario.Worker
import ResilientAgent.Server.Api
import ResilientAgent.Server.Chat
import ResilientAgent.Service.Breaker
import ResilientAgent.Service.Bucket
import ResilientAgent.Service.Gate
import ResilientAgent.Service.Idempotency
import ResilientAgent.Service.Queue
import ResilientAgent.Service.Stack
import ResilientAgent.Service.World
import ResilientAgent.Store.Backend
import ResilientAgent.Store.Basic
import ResilientAgent.Text.Alphanumeric
import ResilientAgent.Text.Blank
import ResilientAgent.Text.CharClass
import ResilientAgent.Text.GraphemeExtend
import ResilientAgent.Text.Printable
import ResilientAgent.Text.Quoted
import ResilientAgent.Text.Similarity
import ResilientAgent.Text.Utf8
import ResilientAgent.Time.Duration
import ResilientAgent.Time.Instant
import ResilientAgent.Tools.Registry
import ResilientAgent.Tools.Tool
import ResilientAgent.Proofs.Agent.Answers
import ResilientAgent.Proofs.Agent.Deliveries
import ResilientAgent.Proofs.Agent.Frames
import ResilientAgent.Proofs.Agent.Histories
import ResilientAgent.Proofs.Agent.IdleBackoff
import ResilientAgent.Proofs.Agent.Loop
import ResilientAgent.Proofs.Agent.Polls
import ResilientAgent.Proofs.Agent.StepAnswers
import ResilientAgent.Proofs.Agent.Usage
import ResilientAgent.Proofs.Breaker.Admission
import ResilientAgent.Proofs.Breaker.Counters
import ResilientAgent.Proofs.Breaker.Probes
import ResilientAgent.Proofs.Breaker.Readiness
import ResilientAgent.Proofs.Breaker.Threshold
import ResilientAgent.Proofs.Bucket.Blocking
import ResilientAgent.Proofs.Bucket.Level
import ResilientAgent.Proofs.Bucket.Refill
import ResilientAgent.Proofs.Config.Buckets
import ResilientAgent.Proofs.Conversation.Trim
import ResilientAgent.Proofs.Conversation.WellFormed
import ResilientAgent.Proofs.Error.Retyping
import ResilientAgent.Proofs.Idempotency.Callers
import ResilientAgent.Proofs.Idempotency.Preimages
import ResilientAgent.Proofs.Idempotency.SingleFlight
import ResilientAgent.Proofs.Idempotency.ToolKeys
import ResilientAgent.Proofs.Jobs.Fencing
import ResilientAgent.Proofs.Jobs.Fields
import ResilientAgent.Proofs.Jobs.Lifecycle
import ResilientAgent.Proofs.Jobs.Machine
import ResilientAgent.Proofs.Jobs.Progress
import ResilientAgent.Proofs.Jobs.Selection
import ResilientAgent.Proofs.Jobs.Serial
import ResilientAgent.Proofs.Jobs.Table
import ResilientAgent.Proofs.Json.Literals
import ResilientAgent.Proofs.Numeral.Binary64
import ResilientAgent.Proofs.Process.Exec
import ResilientAgent.Proofs.Process.Keeps
import ResilientAgent.Proofs.Process.Permits
import ResilientAgent.Proofs.Process.Rely
import ResilientAgent.Proofs.Process.Seeing
import ResilientAgent.Proofs.Process.Turns
import ResilientAgent.Proofs.Retry.Attempts
import ResilientAgent.Proofs.Store.Backends
import ResilientAgent.Proofs.Store.Calls
import ResilientAgent.Proofs.Store.Invariant
import ResilientAgent.Proofs.Store.Millis
import ResilientAgent.Proofs.Time.Deadlines
import ResilientAgent.Proofs.Time.FloatSeconds
import ResilientAgent.Proofs.Tools.Routing
