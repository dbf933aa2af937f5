import ResilientAgent.Provider.ClientError
import ResilientAgent.Scenario.Failure

/-!
# Model providers in scenarios

Scenarios about the chat-completions client: how each of its failures is classified.
-/

namespace ResilientAgent

namespace Scenario

/-- A client failure described by its variant and message; an undecodable response is
described by the text that failed to decode. -/
def clientError? (request : Json) : Option ClientError := do
  let message ← request.textOr "message"
  match ← request.read "variant" Json.str? with
  | "api" =>
    return .api ⟨message, ← request.readOpt "type" Json.str?, ← request.readOpt "param" Json.str?,
      ← request.readOpt "code" Json.str?⟩
  | "stream" => return .stream message
  | "json" =>
    match Json.parse message with
    | .error e => return .undecodable e
    | .ok _ => none
  | "file_save" => return .fileSave message
  | "file_read" => return .fileRead message
  | "invalid_argument" => return .invalidArgument message
  | _ => none

def classifyClientError (request : Json) : Option Json :=
  return agentErrorJson (← clientError? request).toAgentError

end Scenario

end ResilientAgent
