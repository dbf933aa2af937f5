import ResilientAgent.Conversation.Item
import ResilientAgent.Time.Instant

/-!
# Conversation history

A user's conversation is the list of its messages and the instant it was last saved. History
is kept to a bounded tail that always starts at a user message, so that an assistant's tool
call is never cut off from its results; a history expires once its time to live has passed
since the last save.
-/

namespace ResilientAgent

/-- A user's conversation. -/
structure ConversationState where
  userId : String
  messages : List Message
  updatedAt : Instant
  deriving Inhabited

namespace ConversationState

def empty (userId : String) (now : Instant) : ConversationState := ⟨userId, [], now⟩

/-- The messages kept when at most `max` may stay: all of them if they fit; otherwise the
tail from the first user message among the last `max`, or nothing if there is none. -/
def trimMessages (messages : List Message) (max : Nat) : List Message :=
  if messages.length ≤ max then messages
  else
    let tail := messages.drop (messages.length - max)
    tail.dropWhile (·.role != .user)

def trim (s : ConversationState) (max : Nat) : ConversationState :=
  { s with messages := trimMessages s.messages max }

def isExpired (s : ConversationState) (ttl : Duration) (now : Instant) : Bool :=
  decide ((s.updatedAt.add ttl).sinceEpoch ≤ now.sinceEpoch)

def toJson (s : ConversationState) : Json :=
  .object [("user_id", .string s.userId), ("messages", .array (s.messages.map Message.toJson)),
    ("updated_at", .string s.updatedAt.rfc3339)]

end ConversationState

end ResilientAgent
