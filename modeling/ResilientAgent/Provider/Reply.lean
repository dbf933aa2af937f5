import ResilientAgent.Resilience.Policy
import ResilientAgent.Conversation.Item

/-!
# Scripted replies

A scripted model answers from a queue of replies: a response, or a failure of the model API of
a given kind. A failure that is not permanent is transient.
-/

namespace ResilientAgent

/-- One scripted answer of the model. -/
inductive ScriptedReply where
  | respond (response : ModelResponse)
  | fail (kind : ErrorKind) (message : String)
  deriving Inhabited

/-- What a scripted reply answers. -/
def ScriptedReply.answer : ScriptedReply → Except Fault ModelResponse
  | .respond r => .ok r
  | .fail .permanent message => .error (.agent (.permanent modelDependency message))
  | .fail _ message => .error (.agent (.transient modelDependency message))

end ResilientAgent
