import ResilientAgent.Agent.Builder
import ResilientAgent.Agent.Pool
import ResilientAgent.Provider.ChatCompletions
import ResilientAgent.Daemon.Calculator
import ResilientAgent.Daemon.CommandLine
import ResilientAgent.Daemon.Dotenv
import ResilientAgent.Daemon.Launch
import ResilientAgent.Observe.Filter

/-!
# Running the daemon

The daemon first adds the variables of its environment file, reads its command line and
launches (settings, database). It then starts its worker pool (workers and a reaper over an
agent with the calculator tool and the chat-completions model), takes its listening address
when it runs the API, and serves until it is interrupted: it then says that shutdown was
requested, lets the workers finish the job in hand, and says that it stopped.

The log lines written are those the filter in the `RUST_LOG` variable lets through (`info`
and above when there is none or it does not read).

Its surroundings are the working directory's files, the environment, and what happens to it
while it runs. It is interrupted once it has nothing left to do (no job it can take waits, none
is being processed) and a line holding a given text has been written; without one it is killed
when it has nothing left to do. The model's address is never reachable.
-/

namespace ResilientAgent

namespace Daemon

/-- What the daemon is started with: its arguments and the environment's variables, in
order. -/
structure Invocation where
  args : List String
  env : List (String × String)
  deriving Inhabited

/-- How a run of the daemon ended. -/
structure Report where
  /-- The exit status, or nothing when it was killed. -/
  status : Option Nat := some 0
  interrupted : Bool := false
  killed : Bool := false
  stdout : String := ""
  stderr : String := ""
  /-- The log lines written, oldest first. -/
  journal : List String := []
  /-- The jobs in the database at the end. -/
  jobs : JobTable := {}
  deriving Inhabited

def logFilter (env : String → Option String) : LogFilter := LogFilter.read (env "RUST_LOG")

/-- The model the daemon's agent asks: the chat-completions client, which notes each request and
whose requests never reach the endpoint. -/
def unreachableModel (config : RuntimeConfig) : ModelService := fun req => do
  let client : ChatClient := ⟨config.provider.model, config.provider.apiBase.getD defaultApiBase⟩
  Action.log .provider .debug "chat completion"
    [("model", .string config.provider.model),
      ("messages", Json.nat (req.system.toList.length + req.messages.length))]
  let unsent : String → Json → Action (Option HttpReply) := fun _ _ => pure none
  let answer ← client.complete unsent req
  return answer.mapError .agent

def workerPool (config : RuntimeConfig) : Except AgentError WorkerPool := do
  let resilience : Resilience := ⟨config⟩
  let agent ← AgentBuilder.build
    { config, tools := [Calculator.tool], provider := some (unreachableModel config), resilience }
  WorkerPool.start config agent (some ⟨config.queue.reaperInterval, some resilience.idempotency⟩) "worker-W"

def takes (priorities : List Nat) (job : Job) : Bool :=
  priorities.isEmpty || priorities.contains job.priority.level

/-- Whether the daemon has nothing left to do: without workers always, and otherwise when no
job is being processed and none waits that a worker can take. -/
def idle (config : RuntimeConfig) (w : World) : Bool :=
  config.worker.concurrency == 0 ||
    w.store.jobs.slots.all fun s =>
      s.job.status != .processing && !(s.job.status == .queued && takes config.worker.priorities s.job)

def written (filter : LogFilter) (marker : String) (w : World) : Bool :=
  w.journal.any fun l =>
    filter.allows l && (marker.isEmpty || ((filter.present l).text.splitOn marker).length > 1)

/-- How serving ended. -/
inductive Ending where
  /-- The API could not listen. -/
  | refused (failure : LaunchFailure)
  /-- An interrupt stopped it. -/
  | interrupted
  /-- It was killed. -/
  | killed
  deriving Inhabited

/-- Serves once launched: the API, if it runs, listens, and the daemon waits until it has
nothing left to do; it is then interrupted if `interruptAfter` was written, and killed
otherwise. An interrupt stops the pool, waits for it and ends the run. -/
def serve (mode : Mode) (config : RuntimeConfig) (filter : LogFilter) (interruptAfter : Option String)
    (poolToken poolDone : Nat) : Action Ending := do
  if mode.runsApi then
    match bindAddress config.server.bind with
    | .error f => return .refused (.bind f)
    | .ok () => Action.log .daemon .info "api listening" [("bind", .string config.server.bind)]
  Proc.waitFor (idle config)
  -- the workers finish what they were doing at this instant before the daemon counts as idle
  Action.sleep (Duration.ofMillis 1)
  Proc.waitFor (idle config)
  let w ← Proc.get
  match interruptAfter with
  | some marker =>
    if written filter marker w then
      Action.log .daemon .info "shutdown requested"
      Action.cancel poolToken
      Proc.waitFor (stopped poolDone)
      Action.log .daemon .info "stopped"
      return .interrupted
    else return .killed
  | none => return .killed

def runLaunched (mode : Mode) (config : RuntimeConfig) (filter : LogFilter)
    (interruptAfter : Option String) : Action Ending :=
  let pool : Option WorkerPool := if mode.runsWorkers then (workerPool config).toOption else none
  do
  Proc.modify fun w => { w with logging := true }
  let poolToken ← Action.freshTicket
  let poolDone ← Action.freshTicket
  if let some pool := pool then
    Action.log .worker .info "starting worker pool" [("workers", Json.nat pool.workers.length)]
  let tasks : Action Unit := do
    if let some pool := pool then pool.run poolToken
    Action.cancel poolDone
    Proc.waitFor fun _ => false
  match ← Proc.race tasks (serve mode config filter interruptAfter poolToken poolDone) with
  | .inl () => return .killed
  | .inr ending => return ending

def failed (f : LaunchFailure) : Report :=
  { status := some 1, stderr := "Error: " ++ f.debugText ++ "\n" }

def launched (mode : Mode) (config : RuntimeConfig) (filter : LogFilter) (queued : JobTable)
    (interruptAfter : Option String) : Report :=
  let store : Store :=
    { backend := .database, queueConfig := config.queue, conversationConfig := config.conversation,
      jobs := queued }
  let world : World := { timed := false, recording := false, store }
  let (ending, session) := (Session.ofWorld world).perform (runLaunched mode config filter interruptAfter)
  let w := session.world
  let journal := (w.journal.toList.filter filter.allows).map fun l => (filter.present l).text
  let base : Report := { journal, jobs := w.store.jobs }
  match ending with
  | some (.refused f) => { failed f with journal, jobs := w.store.jobs }
  | some .interrupted => { base with interrupted := true }
  | some .killed | none => { base with status := none, killed := true }

def queueOf (jobs : List NewJob) : JobTable :=
  jobs.foldl (fun t new =>
    match t.enqueue {} .database Instant.scriptEpoch new with
    | .ok (_, t) => t
    | .error _ => t) {}

/-- Runs the daemon, looking at files through `probe`, over a database holding the given
jobs; `interruptAfter` is the text after whose writing it is interrupted once it has nothing
left to do. -/
def run {m : Type → Type} [Monad m] (probe : Probe m) (inv : Invocation) (jobs : List NewJob)
    (interruptAfter : Option String) : m Report := do
  let env := match ← probe.read ".env" with
    | .ok text => Dotenv.load inv.env text
    | .error _ => inv.env
  let lookup (key : String) : Option String := env.lookup key
  let queued := queueOf jobs
  let withJobs (r : Report) : Report := { r with jobs := queued }
  match CommandLine.read lookup inv.args with
  | .help text => return withJobs { stdout := text }
  | .refused text => return withJobs { status := some 2, stderr := text }
  | .run line =>
    let settings ← line.config.mapM probe.read
    match loadConfig settings lookup with
    | .error f => return withJobs (failed f)
    | .ok config =>
      let config := match line.concurrency with
        | some n => { config with worker.concurrency := n }
        | none => config
      match DatabaseName.read config.databaseUrl with
      | .error f => return withJobs (failed (.database f))
      | .ok name =>
        let path := name.path
        let target ← probe path
        let parentExists ← probe.hasParent path
        match openDatabase name target parentExists with
        | .error f => return withJobs (failed (.database f))
        | .ok () => return launched line.mode config (logFilter lookup) queued interruptAfter

end Daemon

end ResilientAgent
