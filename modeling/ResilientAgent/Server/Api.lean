import ResilientAgent.Server.Chat
import ResilientAgent.Service.Breaker
import ResilientAgent.Service.Queue
import ResilientAgent.Json.Print

/-!
# The HTTP surface

Four routes over the job queue:

* `POST /chat` submits a job and answers `202` with its identifier and status;
* `GET /chat/<id>` answers with a view of the job, or `404`;
* `GET /health/live` answers `200` with no body;
* `GET /health/ready` runs every readiness check in order and answers `200` when all pass, or
  `503` with the names of those that failed.

A path no route knows answers `404`, and a method a route does not take answers `405`, both
with no body; a route taking `GET` also takes `HEAD`, which answers without the body. Failures
answer with a JSON body holding a code and a message: a refused request is `400`, an unknown job
`404`, a full queue `503` with a hint to retry after five seconds, and anything else `500` with
a message safe to show.
-/

namespace ResilientAgent

/-- A readiness check. -/
inductive HealthCheck where
  /-- The queue answers a depth query. -/
  | queue
  /-- The model's breaker is not open, or its recovery time has passed. -/
  | modelCircuit (breakers : BreakerRegistry) (recovery : Duration)
  /-- The store answers. -/
  | store

namespace HealthCheck

def name : HealthCheck → String
  | .queue => "queue"
  | .modelCircuit .. => modelDependency
  | .store => "store"

def run : HealthCheck → Action (Except AgentError Unit)
  | .queue => do return (← JobQueue.depth).map fun _ => ()
  | .modelCircuit breakers recovery => do
    match ← (breakers.get modelDependency).state with
    | .error e => return .error e
    | .ok s =>
      if s.state != .open then return .ok ()
      let now ← Action.now
      match s.lastFailureAt.map (·.add recovery) with
      | some reopens =>
        if now.sinceEpoch < reopens.sinceEpoch then
          return .error (.circuitOpen modelDependency ⟨(reopens.sinceEpoch - now.sinceEpoch).toNat⟩)
        else return .ok ()
      | none => return .ok ()
  | .store => Action.inspect (·.available)

end HealthCheck

/-- A request to the HTTP surface. -/
structure HttpRequest where
  method : String
  /-- The path, possibly with a query. -/
  path : String
  contentType : Option String
  body : String

/-- A response of the HTTP surface. -/
structure HttpResponse where
  status : Nat
  retryAfter : Option String := none
  contentType : Option String := none
  body : String := ""

def jsonMediaType : String := "application/json"

def HttpResponse.json (status : Nat) (body : Json) : HttpResponse :=
  { status, contentType := some jsonMediaType, body := body.render }

/-- A failure as the HTTP surface reports it. -/
structure HttpFailure where
  status : Nat
  code : String
  message : String
  retryAfter : Option Nat := none

namespace HttpFailure

def badRequest (message : String) : HttpFailure := ⟨400, "invalid_request", message, none⟩

def ofError (e : AgentError) : HttpFailure :=
  match e with
  | .invalidRequest message => badRequest message
  | .jobNotFound jobId => ⟨404, "not_found", "job " ++ jobId ++ " not found", none⟩
  | .queueFull _ => ⟨503, e.code, e.userMessage, some 5⟩
  | _ => ⟨500, "internal", e.userMessage, none⟩

def response (e : HttpFailure) : HttpResponse :=
  { HttpResponse.json e.status (.object [("code", .string e.code), ("message", .string e.message)]) with
    retryAfter := e.retryAfter.map toString }

end HttpFailure

def Job.view (j : Job) : Json :=
  .object ([("job_id", .string j.jobId), ("status", .string j.status.name),
    ("priority", Json.nat j.priority.level), ("attempts", Json.nat j.attempts),
    ("submitted_at", .string j.submittedAt.rfc3339)] ++
    (j.completedAt.map fun t => ("completed_at", Json.string t.rfc3339)).toList ++
    (j.result.map fun r => ("response", Json.string r.response)).toList ++
    (match j.result with
      | some r => if r.degradedTools.isEmpty then [] else [("degraded_tools", .array (r.degradedTools.map Json.string))]
      | none => []) ++
    (j.error.map fun f => ("error", Json.string f.message)).toList ++
    (j.error.map fun f => ("error_code", Json.string f.code)).toList)

/-- The routes. -/
inductive Route where
  | chat
  /-- A job, by its path segment as written. -/
  | job (segment : String)
  | live
  | ready

def hexValue? (c : Char) : Option Nat :=
  if '0' ≤ c && c ≤ '9' then some (c.toNat - '0'.toNat)
  else if 'a' ≤ c && c ≤ 'f' then some (c.toNat - 'a'.toNat + 10)
  else if 'A' ≤ c && c ≤ 'F' then some (c.toNat - 'A'.toNat + 10)
  else none

def percentDecodedBytes : List Char → List UInt8
  | '%' :: a :: b :: rest =>
    match hexValue? a, hexValue? b with
    | some x, some y => (16 * x + y).toUInt8 :: percentDecodedBytes rest
    | _, _ => '%'.toNat.toUInt8 :: percentDecodedBytes (a :: b :: rest)
  | c :: rest => (String.singleton c).toUTF8.toList ++ percentDecodedBytes rest
  | [] => []

def percentDecoded? (segment : String) : Option String :=
  String.fromUTF8? (ByteArray.mk (percentDecodedBytes segment.toList).toArray)

/-- The route of a path; the query is not part of it, and a job's identifier is the segment as
written. -/
def Route.ofPath (path : String) : Option Route :=
  match ((path.splitOn "?").headD "").splitOn "/" with
  | ["", "chat"] => some .chat
  | ["", "chat", jobId] => if jobId.isEmpty then none else some (.job jobId)
  | ["", "health", "live"] => some .live
  | ["", "health", "ready"] => some .ready
  | _ => none

def undecodablePath : HttpResponse :=
  { status := 400, contentType := some "text/plain; charset=utf-8",
    body := "Invalid URL: Invalid UTF-8 in `job_id`" }

structure Api where
  checks : List HealthCheck

namespace Api

def submit (req : HttpRequest) : Action HttpResponse := do
  match ChatRequest.ofBody req.contentType req.body with
  | .error r => return (HttpFailure.badRequest r.text).response
  | .ok c =>
    match (c.priority.map Priority.new).getD (.ok Priority.default) with
    | .error e => return (HttpFailure.ofError e).response
    | .ok priority =>
      match ← JobQueue.enqueue { userId := c.userId, message := c.message, priority } with
      | .error e => return (HttpFailure.ofError e).response
      | .ok job =>
        Action.record (.jobTransition job.jobId none .queued)
        return HttpResponse.json 202 (.object [("job_id", .string job.jobId), ("status", .string job.status.name)])

def poll (jobId : String) : Action HttpResponse := do
  match ← JobQueue.get jobId with
  | .error e => return (HttpFailure.ofError e).response
  | .ok none => return (HttpFailure.ofError (.jobNotFound jobId)).response
  | .ok (some job) => return HttpResponse.json 200 job.view

def ready (api : Api) : Action HttpResponse := do
  let failing ← api.checks.filterMapM fun check => do
    match ← check.run with
    | .ok () => return none
    | .error _ => return some check.name
  let isReady := failing.isEmpty
  return HttpResponse.json (if isReady then 200 else 503)
    (.object ([("ready", .bool isReady)] ++
      (if isReady then [] else [("failing", .array (failing.map Json.string))])))

def handle (api : Api) (req : HttpRequest) : Action HttpResponse := do
  let reads := req.method == "GET" || req.method == "HEAD"
  let strip (r : HttpResponse) : HttpResponse := if req.method == "HEAD" then { r with body := "" } else r
  let notAllowed : HttpResponse := { status := 405 }
  match Route.ofPath req.path with
  | none => return { status := 404 }
  | some .chat => if req.method == "POST" then submit req else return notAllowed
  | some (.job segment) =>
    if !reads then return notAllowed
    else match percentDecoded? segment with
      | some jobId => strip <$> poll jobId
      | none => return strip undecodablePath
  | some .live => return if reads then { status := 200 } else notAllowed
  | some .ready => if reads then strip <$> api.ready else return notAllowed

end Api

end ResilientAgent
