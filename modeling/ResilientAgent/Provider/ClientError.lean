import ResilientAgent.Resilience.Policy
import ResilientAgent.Json.Parse

/-!
# Chat client failures

What can go wrong when the chat-completions client talks to the model endpoint, and how each
failure is classified for the model dependency `llm-api`. Transport and stream failures and
undecodable responses may pass on retry. An error object from the API is transient when its
`code` (or, without one, its `type`) mentions a rate limit, a server error or an overload,
unless it is exactly `insufficient_quota`. Everything else is permanent.
-/

namespace ResilientAgent

/-- The error object an API answers with. -/
structure ApiError where
  message : String
  kind : Option String
  param : Option String
  code : Option String
  deriving Repr, DecidableEq, Inhabited

/-- The text of an API error: `type: message (param: p) (code: c)`, leaving out the absent
parts. -/
def ApiError.display (e : ApiError) : String :=
  " ".intercalate ((e.kind.map (· ++ ":")).toList ++ [e.message] ++
    (e.param.map fun p => "(param: " ++ p ++ ")").toList ++
    (e.code.map fun c => "(code: " ++ c ++ ")").toList)

/-- A failure of the chat client. -/
inductive ClientError where
  | http (message : String)
  | api (error : ApiError)
  | undecodable (error : JsonError)
  | fileSave (message : String)
  | fileRead (message : String)
  | stream (message : String)
  | invalidArgument (message : String)
  deriving Inhabited

namespace ClientError

/-- The text of a client failure. -/
def display : ClientError → String
  | .http m => "http error: " ++ m
  | .api e => e.display
  | .undecodable e => "failed to deserialize api response: " ++ e.message
  | .fileSave m => "failed to save file: " ++ m
  | .fileRead m => "failed to read file: " ++ m
  | .stream m => "stream failed: " ++ m
  | .invalidArgument m => "invalid args: " ++ m

/-- Whether an API error's tag marks a failure that may pass on retry. -/
def transientTag (tag : String) : Bool :=
  tag != "insufficient_quota" &&
    ((tag.splitOn "rate_limit").length > 1 || (tag.splitOn "server_error").length > 1 ||
      (tag.splitOn "overloaded").length > 1)

/-- Whether a client failure may pass on retry. -/
def isTransient : ClientError → Bool
  | .http _ | .stream _ | .undecodable _ => true
  | .api e => transientTag ((e.code.orElse fun _ => e.kind).getD "")
  | _ => false

def toAgentError (e : ClientError) : AgentError :=
  if e.isTransient then .transient modelDependency e.display
  else .permanent modelDependency e.display

end ClientError

end ResilientAgent
