import ResilientAgent.Server.Api
import ResilientAgent.Scenario.Jobs
import ResilientAgent.Scenario.Observe
import ResilientAgent.Scenario.Stack

/-!
# The HTTP surface in scenarios

A scenario builds the HTTP surface over a queue with the readiness checks it names, and sends
it requests op by op. A request names its method (`GET` unless given), its path and a body,
text or JSON; a body is labelled as JSON unless the request says otherwise, and `null` leaves
it unlabelled. Each answer reports the status, the retry hint, the media type, the body (as
JSON when it reads as JSON, as text otherwise) and the events. Between requests the scenario
may force failures on the model's breaker or act on the queue directly.
-/

namespace ResilientAgent

namespace Scenario

/-- An op of an HTTP scenario. -/
inductive ApiOp where
  | request (req : HttpRequest)
  | tripModel (times : Nat)
  | queue (op : QueueOp)

def httpRequest? (j : Json) : Option HttpRequest := do
  let method ← j.readOr "method" Json.str? "GET"
  let path ← j.read "path" Json.str?
  let body := match j.get? "body" with
    | none => none
    | some (.string s) => some s
    | some other => some other.render
  let contentType ← match j.get? "content_type" with
    | none => some (body.map fun _ => jsonMediaType)
    | some .null => some none
    | some (.string s) => some (some s)
    | some _ => none
  return ⟨method, path, contentType, body.getD ""⟩

def apiOp? (op : Json) : Option ApiOp :=
  match op.get? "request", op.get? "trip_model", op.get? "queue" with
  | some r, _, _ => (httpRequest? r).map .request
  | none, some n, _ => (Json.u64? n).map .tripModel
  | none, none, some q => (queueOp? q).map .queue
  | _, _, _ => none

def httpResponseJson (r : HttpResponse) : Json :=
  .object [("status", Json.nat r.status), ("retry_after", Json.opt Json.string r.retryAfter),
    ("content_type", Json.opt Json.string r.contentType),
    ("body", match Json.parse r.body with
      | .ok v => .object [("json", v)]
      | .error _ => .object [("text", .string r.body)])]

def healthCheck? (breakers : BreakerRegistry) (recovery : Duration) (backend : Backend) :
    Json → Option HealthCheck
  | .string "queue" => some .queue
  | .string "model" => some (.modelCircuit breakers recovery)
  | .string "store" => if backend == .database then some .store else none
  | _ => none

def apiOps (request : Json) : Option Json :=
  match runtimeConfig? request, backendOf request, request.read "ops" Json.array? with
  | some config, some backend, some ops =>
    let breakers : BreakerRegistry := ⟨config.breaker, []⟩
    match request.readOr "checks"
        (Json.readEach (healthCheck? breakers config.breaker.recoveryTimeout backend)) [] with
    | none => none
    | some checks =>
      let api : Api := ⟨checks⟩
      let store : Store := { queueConfig := config.queue, conversationConfig := config.conversation }
      playOpsWith (worldOn backend store) ([] : List Lease) ops fun leases op =>
        (apiOp? op).map fun
          | .request req => do
            let mark ← eventMark
            let response ← api.handle req
            return ((httpResponseJson response).withMember "events" (← eventsFrom mark), leases)
          | .tripModel times => do
            let answer ← withEvents do
              let b := breakers.get modelDependency
              tripBreaker b times
              return [("state", breakerStateJson (← b.state))]
            return (answer, leases)
          | .queue q => q.run leases
  | _, _, _ => none

end Scenario

end ResilientAgent
