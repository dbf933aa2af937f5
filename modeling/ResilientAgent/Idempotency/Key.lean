import ResilientAgent.Digest.Sha256
import ResilientAgent.Json.Print

/-!
# Idempotency keys

A key names one logical operation, so that running it again replays the stored result. A key is
either given by the caller or derived: the SHA-256 of its parts, each preceded by its byte
length as a big-endian 64-bit word, so that `("ab", "c")` and `("a", "bc")` differ. A tool call's
key derives from the word `tool`, the request scope, the tool name and the arguments in
canonical form: compact JSON with every object's keys sorted, so that key order in the model's
output does not matter.
-/

namespace ResilientAgent

structure IdempotencyKey where
  text : String
  deriving Repr, DecidableEq, Inhabited

namespace IdempotencyKey

/-- The bytes hashed for a list of parts: each part's byte length, then its bytes. -/
def framedParts (parts : List String) : ByteArray :=
  parts.foldl (fun acc p => acc ++ ⟨(Sha256.bigEndian64 p.utf8ByteSize).toArray⟩ ++ p.toUTF8)
    ByteArray.empty

def ofParts (parts : List String) : IdempotencyKey :=
  ⟨Sha256.hex (Sha256.digest (framedParts parts))⟩

/-- Compact JSON text with the keys of every object in sorted order. -/
def canonicalJson : Json → String
  | .array items =>
    "[" ++ ",".intercalate (items.attach.map fun ⟨x, _⟩ => canonicalJson x) ++ "]"
  | .object fields =>
    let members := fields.attach.map fun ⟨kv, _⟩ => (kv.1, canonicalJson kv.2)
    let sorted := members.mergeSort fun x y => !(y.1 < x.1)
    "\x7b" ++ ",".intercalate (sorted.map fun (k, v) => quoteJson k ++ ":" ++ v) ++ "\x7d"
  | other => other.render
termination_by j => sizeOf j
decreasing_by
  · exact Json.sizeOf_lt_of_mem_array ‹_›
  · exact Json.sizeOf_lt_of_mem_object ‹_›

def forToolCall (scope tool : String) (arguments : Json) : IdempotencyKey :=
  ofParts ["tool", scope, tool, canonicalJson arguments]

end IdempotencyKey

end ResilientAgent
