import ResilientAgent.Service.Stack

/-!
# The scripted model

A model that answers from the world's queue of scripted replies and logs every request it
receives. Once the queue is empty it answers with its fallback, a function of the request, or
fails permanently with `script exhausted` if it has none. It takes its answer when called and
then sleeps its latency, if any, before handing the answer back.
-/

namespace ResilientAgent

structure ScriptedProvider where
  fallback : Option (ModelRequest → Except Fault ModelResponse) := none
  latency : Option Duration := none

namespace ScriptedProvider

/-- The answer once the replies run out. -/
def exhausted (p : ScriptedProvider) (req : ModelRequest) : Except Fault ModelResponse :=
  match p.fallback with
  | some f => f req
  | none => .error (.agent (.permanent modelDependency "script exhausted"))

/-- The model as a service. -/
def service (p : ScriptedProvider) : ModelService := fun req => do
  let answer ← Proc.modifyGet fun w =>
    let w := { w with requests := w.requests.push req }
    match w.replies with
    | r :: rest => (r.answer, { w with replies := rest })
    | [] => (p.exhausted req, w)
  if let some d := p.latency then Action.sleep d
  return answer

end ScriptedProvider

end ResilientAgent
