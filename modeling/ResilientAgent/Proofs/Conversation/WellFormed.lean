import ResilientAgent.Conversation.State

/-!
# Tool-well-formed conversations

A model that asked for tools must see each call answered, at once and in order, before anything
else is said, and a tool message means nothing outside such an answer. `ToolWellFormed` is that
rule as a grammar of blocks: a message that is not a tool message and asks for no tools, or an
assistant message asking for tools followed by exactly one tool message per call, answering the
calls in order.

Well-formed conversations are closed under concatenation (`ToolWellFormed.append`), and every
tail of one that starts at a user message is well formed (`ToolWellFormed.drop`), since no block
holds a user message. Trimming a history keeps such a tail, so a history trimmed as the store
trims it has the shape the store promises (`historyShape_trimMessages`).
-/

namespace ResilientAgent

/-- Messages that are empty or start with a user message. -/
def StartsWithUser (ms : List Message) : Prop := ∀ m ∈ ms.head?, m.role = .user

/-- Conversations in which every assistant message asking for tools is followed at once by one
tool message per call, answering the calls in order, and every tool message is such an answer. -/
inductive ToolWellFormed : List Message → Prop
  | nil : ToolWellFormed []
  /-- A message that is no tool message and asks for no tools. -/
  | plain {m : Message} {rest : List Message} (hrole : m.role ≠ .tool)
      (hcalls : m.role = .assistant → m.toolCalls = []) (hrest : ToolWellFormed rest) :
      ToolWellFormed (m :: rest)
  /-- An assistant message asking for tools, and the answers to its calls. -/
  | block {m : Message} {results rest : List Message} (hrole : m.role = .assistant)
      (hcalls : m.toolCalls ≠ []) (hids : results.map (·.toolCallId) = m.toolCalls.map (some ·.id))
      (htools : ∀ r ∈ results, r.role = .tool) (hrest : ToolWellFormed rest) :
      ToolWellFormed (m :: (results ++ rest))

/-- A history as the store keeps it with room for `max` messages. -/
structure HistoryShape (max : Nat) (ms : List Message) : Prop where
  length_le : ms.length ≤ max
  startsWithUser : StartsWithUser ms
  toolWellFormed : ToolWellFormed ms

theorem startsWithUser_nil : StartsWithUser [] := by simp [StartsWithUser]

theorem StartsWithUser.append {a b : List Message} (ha : StartsWithUser a) (hb : StartsWithUser b) :
    StartsWithUser (a ++ b) := by
  cases a with
  | nil => exact hb
  | cons m rest => exact ha

namespace ToolWellFormed

theorem append {a b : List Message} (ha : ToolWellFormed a) (hb : ToolWellFormed b) :
    ToolWellFormed (a ++ b) := by
  induction ha with
  | nil => exact hb
  | plain hrole hcalls _ ih => exact .plain hrole hcalls ih
  | block hrole hcalls hids htools _ ih =>
    rw [List.cons_append, List.append_assoc]
    exact .block hrole hcalls hids htools ih

/-- A tail that starts at a user message cuts no block. -/
theorem drop {l : List Message} (hl : ToolWellFormed l) (n : Nat)
    (hstart : StartsWithUser (l.drop n)) :
    ToolWellFormed (l.drop n) := by
  induction hl generalizing n with
  | nil => simpa using ToolWellFormed.nil
  | plain hrole hcalls hrest ih =>
    cases n with
    | zero => exact .plain hrole hcalls hrest
    | succ n => exact ih n hstart
  | @block m results rest hrole hcalls hids htools hrest ih =>
    cases n with
    | zero => exact .block hrole hcalls hids htools hrest
    | succ n =>
      simp only [List.drop_succ_cons] at hstart ⊢
      by_cases hn : n < results.length
      · -- a cut among the answers would start at a tool message
        have hhead : ((results ++ rest).drop n).head? = some results[n] := by
          rw [List.drop_append_of_le_length (Nat.le_of_lt hn)]
          simp [List.head?_drop, hn]
        have huser := hstart _ hhead
        have htool := htools _ (List.getElem_mem hn)
        rw [htool] at huser
        cases huser
      · have hdrop : (results ++ rest).drop n = rest.drop (n - results.length) := by
          rw [List.drop_append, List.drop_eq_nil_of_le (by omega), List.nil_append]
        rw [hdrop] at hstart ⊢
        exact ih _ hstart

end ToolWellFormed

theorem dropWhile_not_user_eq_drop (l : List Message) :
    ∃ n, l.dropWhile (·.role != .user) = l.drop n ∧ StartsWithUser (l.drop n) := by
  obtain ⟨n, hn⟩ : ∃ n, l.dropWhile (·.role != .user) = l.drop n :=
    ⟨_, List.suffix_iff_eq_drop.1 (List.dropWhile_suffix _)⟩
  refine ⟨n, hn, ?_⟩
  intro m hm
  have hnot := List.head?_dropWhile_not (·.role != .user) l
  rw [hn, hm] at hnot
  simpa using hnot

theorem length_trimMessages_le (l : List Message) (max : Nat) :
    (ConversationState.trimMessages l max).length ≤ max := by
  unfold ConversationState.trimMessages
  split
  · assumption
  · calc ((l.drop (l.length - max)).dropWhile (·.role != .user)).length
        ≤ (l.drop (l.length - max)).length := (List.dropWhile_suffix _).length_le
      _ = max := by simp; omega

theorem trimMessages_eq_drop (l : List Message) (max : Nat) :
    ConversationState.trimMessages l max = l ∨
      ∃ n, ConversationState.trimMessages l max = l.drop n ∧ StartsWithUser (l.drop n) := by
  unfold ConversationState.trimMessages
  split
  · exact .inl rfl
  · obtain ⟨n, hn, hstart⟩ := dropWhile_not_user_eq_drop (l.drop (l.length - max))
    rw [List.drop_drop] at hn hstart
    exact .inr ⟨_, hn, hstart⟩

/-- Messages that start with a user message and are tool-well-formed keep the shape of a stored
history once trimmed to `max`. -/
theorem historyShape_trimMessages {l : List Message} (hstart : StartsWithUser l)
    (hwf : ToolWellFormed l) (max : Nat) :
    HistoryShape max (ConversationState.trimMessages l max) := by
  have hlen := length_trimMessages_le l max
  rcases trimMessages_eq_drop l max with htrim | ⟨n, htrim, hn⟩ <;> rw [htrim] at hlen ⊢
  · exact ⟨hlen, hstart, hwf⟩
  · exact ⟨hlen, hn, hwf.drop n hn⟩

end ResilientAgent
