import ResilientAgent.Conversation.Item

/-!
# Runs

A run takes one user message through the loop. It ends either with a final answer (`done`) or
at the iteration limit, and reports the text, the messages it added, the model turns taken,
the tokens spent and the tools that were unavailable along the way.
-/

namespace ResilientAgent

/-- Why a run ended without an error. -/
inductive RunOutcome where
  | done
  | iterationLimitReached
  deriving Repr, DecidableEq, Inhabited

def RunOutcome.name : RunOutcome → String
  | .done => "done"
  | .iterationLimitReached => "iteration_limit_reached"

/-- An outcome by name. -/
def RunOutcome.decode : Decoder RunOutcome := fun n => do
  match ← Node.variant ["done", "iteration_limit_reached"] n with
  | "done" => .ok .done
  | _ => .ok .iterationLimitReached

/-- What a run produced. -/
structure AgentRun where
  outcome : RunOutcome
  /-- The final text, with the note on unavailable tools when there were any. -/
  response : String
  /-- The messages the run added, starting with the user message. -/
  messages : List Message
  iterations : Nat
  usage : Usage
  degradedTools : List String
  deriving Inhabited

def degradationNote (tools : List String) : String :=
  "Note: some information may be incomplete because these tools were unavailable: " ++
    ", ".intercalate tools ++ "."

/-- The JSON form of a run. -/
def AgentRun.toJson (r : AgentRun) : Json :=
  .object [("outcome", .string r.outcome.name), ("response", .string r.response),
    ("messages", .array (r.messages.map Message.toJson)), ("iterations", Json.nat r.iterations),
    ("usage", r.usage.toJson), ("degraded_tools", .array (r.degradedTools.map Json.string))]

end ResilientAgent
