import ResilientAgent.Proofs.Conversation.WellFormed

/-!
# What trimming keeps

A history that fits in its room is kept whole. One that does not fit is cut to the longest tail
that fits and starts at a user message, or to nothing when it has no such tail
(`ConversationState.trim_keeps_longest_user_tail`); either way, trimming again keeps it as it is.

Two facts carry this. A tail that fits is a tail of the last `max` messages, since tails of one
list are ordered by length. And a tail of those that starts at a user message is a tail of what
is left once everything before their first user message is dropped
(`suffix_dropWhile_of_head`). What trimming keeps fits, so a second trim keeps all of it.
-/

namespace ResilientAgent

/-- A tail of `ms` that fits in `max` messages and starts with a user message. -/
def UserTail (max : Nat) (ms tail : List Message) : Prop :=
  tail <:+ ms ∧ tail.length ≤ max ∧ ∃ m ∈ tail.head?, m.role = .user

/-- `kept` is the longest tail of `ms` that fits in `max` messages and starts with a user
message, or is empty when `ms` has no such tail. -/
def LongestUserTail (max : Nat) (ms kept : List Message) : Prop :=
  (kept = [] ∧ ∀ tail, ¬ UserTail max ms tail) ∨
    (UserTail max ms kept ∧ ∀ tail, UserTail max ms tail → tail <:+ kept)

/-- A tail whose first element fails `p` survives `dropWhile p`. -/
theorem suffix_dropWhile_of_head {α : Type} {p : α → Bool} {s l : List α} (hs : s <:+ l)
    (hhead : ∃ a ∈ s.head?, p a = false) : s <:+ l.dropWhile p := by
  induction l with
  | nil => simpa using hs
  | cons a l ih =>
    rcases List.suffix_cons_iff.1 hs with rfl | hs'
    · -- the tail is the whole list, whose head stops the drop at once
      obtain ⟨b, hb, hpb⟩ := hhead
      cases hb
      simp [hpb]
    · by_cases hpa : p a = true
      · simpa [List.dropWhile_cons, hpa] using ih hs'
      · simpa [List.dropWhile_cons, hpa] using hs'.trans (List.suffix_cons a l)

namespace ConversationState

theorem trimMessages_of_length_le {ms : List Message} {max : Nat} (h : ms.length ≤ max) :
    trimMessages ms max = ms :=
  if_pos h

theorem trimMessages_of_lt {ms : List Message} {max : Nat} (h : max < ms.length) :
    trimMessages ms max = (ms.drop (ms.length - max)).dropWhile (·.role != .user) :=
  if_neg (Nat.not_le.2 h)

theorem trimMessages_suffix (ms : List Message) (max : Nat) : trimMessages ms max <:+ ms := by
  rcases trimMessages_eq_drop ms max with h | ⟨n, h, -⟩
  · simp only [h, List.suffix_refl]
  · simp only [h, List.drop_suffix]

theorem suffix_trimMessages_of_userTail {ms tail : List Message} {max : Nat}
    (h : max < ms.length) (htail : UserTail max ms tail) : tail <:+ trimMessages ms max := by
  obtain ⟨hsuffix, hlen, m, hm, hrole⟩ := htail
  have hlast : (ms.drop (ms.length - max)).length = max := by simp; omega
  have hin : tail <:+ ms.drop (ms.length - max) :=
    List.suffix_of_suffix_length_le hsuffix (List.drop_suffix _ ms) (by omega)
  rw [trimMessages_of_lt h]
  exact suffix_dropWhile_of_head hin ⟨m, hm, by simp [hrole]⟩

theorem longestUserTail_trimMessages {ms : List Message} {max : Nat} (h : max < ms.length) :
    LongestUserTail max ms (trimMessages ms max) := by
  by_cases hnil : trimMessages ms max = []
  · -- nothing is kept: a tail that qualified would have survived
    refine .inl ⟨hnil, fun tail htail => ?_⟩
    have hkept := suffix_trimMessages_of_userTail h htail
    rw [hnil, List.suffix_nil] at hkept
    obtain ⟨-, -, m, hm, -⟩ := htail
    simp [hkept] at hm
  · obtain ⟨m, hm⟩ := Option.ne_none_iff_exists'.1 (mt List.head?_eq_none_iff.1 hnil)
    have hstart : m.role = .user := by
      have hnot := List.head?_dropWhile_not (·.role != .user) (ms.drop (ms.length - max))
      rw [← trimMessages_of_lt h, hm] at hnot
      simpa using hnot
    exact .inr ⟨⟨trimMessages_suffix ms max, length_trimMessages_le ms max, m, hm, hstart⟩,
      fun tail htail => suffix_trimMessages_of_userTail h htail⟩

theorem trimMessages_trimMessages (ms : List Message) (max : Nat) :
    trimMessages (trimMessages ms max) max = trimMessages ms max :=
  trimMessages_of_length_le (length_trimMessages_le ms max)

/-- Trimming keeps a history that fits; otherwise it keeps the longest tail that fits and
starts at a user message, or nothing when there is none. Trimming twice trims once. -/
theorem trim_keeps_longest_user_tail (s : ConversationState) (max : Nat) :
    (s.messages.length ≤ max → (s.trim max).messages = s.messages) ∧
      (max < s.messages.length → LongestUserTail max s.messages (s.trim max).messages) ∧
      (s.trim max).trim max = s.trim max := by
  refine ⟨trimMessages_of_length_le, longestUserTail_trimMessages, ?_⟩
  simp only [trim, trimMessages_trimMessages]

/-- Room for four of five messages: the tail starts at the second user message, not at the
assistant's answer before it. -/
example :
    (trimMessages [.user "q1", .assistant "a1", .user "q2", .assistant "a2", .user "q3"] 4).map
      (·.content) = ["q2", "a2", "q3"] := by
  decide

end ConversationState

end ResilientAgent
