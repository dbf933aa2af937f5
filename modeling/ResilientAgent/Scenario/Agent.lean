import ResilientAgent.Agent.Builder
import ResilientAgent.Scenario.Settings
import ResilientAgent.Scenario.Stack

/-!
# The agent in scenarios

Scenarios that run a scripted model with declared tools: one step over the bare model and
router, the loop over such a step, and a whole agent assembled by the builder, with the
resilience stack around the model and every tool. Each reports its result with the events it
caused, a summary of every request the model received and how often each scripted tool ran.

An agent scenario is a session of ops: a run takes one user message through the agent, and the
guard ops of tool scenarios read or force the state of breakers and buckets in between. A run's
scope is named after its place among the ops unless given.
-/

namespace ResilientAgent

namespace Scenario

/-- What every agent scenario reads: the configuration, the model's script and fallback, and
the store's backend. -/
structure AgentSetup where
  config : RuntimeConfig
  script : List ScriptedReply
  provider : ScriptedProvider
  backend : Backend

def agentSetup? (request : Json) : Option AgentSetup := do
  let config ← runtimeConfig? request
  let (script, provider) ← request.readOr "provider" scriptedModel? ([], {})
  return ⟨config, script, provider, ← backendOf request⟩

def AgentSetup.world (s : AgentSetup) : World := { worldOn s.backend with replies := s.script }

/-- A step over the bare model and a router over the declared tools, configured by the agent
settings. -/
def AgentSetup.step (s : AgentSetup) (tools : List DeclaredTool) : Step :=
  Step.configured { model := s.provider.service, tools := .new (tools.map (·.tool)) } s.config.agent

def agentResultJson {α : Type} (value : α → Json) : Except AgentError α → Json
  | .ok v => okJson (value v)
  | .error e => errJson (agentErrorJson e)

def messagesJson (ms : List Message) : Json := .array (ms.map Message.toJson)

def stepOutcomeJson : StepOutcome → Json
  | .next appended usage invoked degraded =>
    .object [("next", .object [("appended", messagesJson appended), ("usage", usage.toJson),
      ("invoked_tools", .array (invoked.map Json.string)),
      ("degraded", .array (degraded.map Json.string))])]
  | .done text appended usage =>
    .object [("done", .object [("text", .string text), ("appended", messagesJson appended),
      ("usage", usage.toJson)])]

/-! ## One step -/

/-- The input of a step scenario and the settings it overrides. -/
structure StepSettings where
  messages : List Message
  scope : String
  iteration : Nat
  system : Option String
  parallel : Option Bool
  limit : Option Nat

def stepSettings? (request : Json) : Option StepSettings := do
  return ⟨← request.readOr "messages" (Json.readEach (typed Message.decode)) [],
    ← request.readOr "scope" Json.str? "s", ← request.readOr "iteration" Json.u64? 0,
    ← request.readOpt "system" Json.str?, ← request.readOpt "parallel_tools" Json.bool?,
    ← request.readOpt "tool_concurrency_limit" Json.u64?⟩

def StepSettings.apply (o : StepSettings) (s : Step) : Step :=
  { s with system := o.system <|> s.system, parallelTools := o.parallel.getD s.parallelTools
           toolConcurrency := o.limit <|> s.toolConcurrency }

def stepOps (request : Json) : Option Json :=
  match declaredTools? request, agentSetup? request, stepSettings? request with
  | some tools, some setup, some settings =>
    let step := settings.apply (setup.step tools)
    match (Session.ofWorld setup.world).perform
        (step.run ⟨settings.messages, settings.scope, settings.iteration⟩) with
    | (some result, s) =>
      let w := s.world
      some (.object [("result", agentResultJson stepOutcomeJson result), ("events", eventsSince w 0),
        ("requests", requestsFrom w 0), ("tool_calls", toolCallsJson tools w)])
    | (none, _) => none
  | _, _, _ => none

/-! ## The loop -/

/-- A run request as a scenario gives it, and whether it comes already cancelled. -/
structure RunSpec where
  request : RunRequest
  cancelled : Bool

def runSpec? (scope : String) (j : Json) : Option RunSpec := do
  let request : RunRequest :=
    { message := ← j.read "message" Json.str?
      history := ← j.readOr "history" (Json.readEach (typed Message.decode)) []
      scope := ← j.readOr "scope" Json.str? scope }
  return ⟨request, ← j.readOr "cancelled" Json.bool? false⟩

def RunSpec.start (s : RunSpec) : Action RunRequest := do
  if s.cancelled then
    let token ← Action.freshTicket
    Action.cancel token
    return { s.request with cancel := some token }
  else return s.request

def loopOps (request : Json) : Option Json :=
  match declaredTools? request, agentSetup? request, request.read "run" (runSpec? "scope-0") with
  | some tools, some setup, some run =>
    let loop : AgentLoop :=
      ⟨(setup.step tools).run, setup.config.agent.maxIterations, setup.config.timeouts.request⟩
    match (Session.ofWorld setup.world).perform (do loop.run (← run.start)) with
    | (some result, s) =>
      some (.object [("result", agentResultJson AgentRun.toJson result),
        ("events", eventsSince s.world 0)])
    | (none, _) => none
  | _, _, _ => none

/-! ## The assembled agent -/

inductive AgentOp where
  | run (spec : RunSpec)
  | guard (op : GuardOp)

def agentOp? (index : Nat) (op : Json) : Option AgentOp :=
  match op.get? "run" with
  | some spec => (runSpec? ("scope-" ++ toString index) spec).map .run
  | none => (guardOp? op).map .guard

/-- Runs one request through the agent, answering with its result, the time it took, its
events, the requests the model received meanwhile and the tool runs so far. -/
def runJson (agent : AgentLoop) (tools : List DeclaredTool) (spec : RunSpec) : Action Json := do
  let req ← spec.start
  let mark ← eventMark
  let asked ← Proc.read fun w => .pure w.requests.size
  let start ← Action.tick
  let result ← agent.run req
  let elapsed ← Action.elapsedSince start
  let w ← Proc.get
  return .object [("result", agentResultJson AgentRun.toJson result),
    ("elapsed", elapsedJson w.timed elapsed), ("events", ← eventsFrom mark),
    ("requests", requestsFrom w asked), ("tool_calls", toolCallsJson tools w)]

/-- An agent built from the request, driven by `run` and guard ops; a build failure answers
for the whole scenario. With the agent's own guards, nothing is recorded. -/
def agentOps (request : Json) : Option Json :=
  match declaredTools? request, agentSetup? request, request.readOr "no_provider" Json.bool? false,
      request.readOr "default_resilience" Json.bool? false, request.read "ops" Json.array? with
  | some tools, some setup, some noProvider, some ownGuards, some ops =>
    let r : Resilience := ⟨setup.config⟩
    let builder : AgentBuilder :=
      { config := setup.config, tools := tools.map (·.tool)
        provider := if noProvider then none else some setup.provider.service, resilience := r }
    match builder.build with
    | .error e => some (failedJson e)
    | .ok agent =>
      let w := { setup.world with recording := !ownGuards }
      let played := playOpsAt (Session.ofWorld w) () ops fun () index op =>
        (agentOp? index op).map fun
          | .run req => (·, ()) <$> runJson agent tools req
          | .guard g => (·, ()) <$> g.run r
      played.map fun (answers, _) => .object [("ops", .array answers)]
  | _, _, _, _, _ => none

end Scenario

end ResilientAgent
