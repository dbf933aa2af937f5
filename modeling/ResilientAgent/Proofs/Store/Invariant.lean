import ResilientAgent.Proofs.Process.Seeing
import ResilientAgent.Service.Gate

/-!
# Actions that keep an invariant of the store

An invariant `J` of the shared store is the invariant `fun w => J w.store` of the world. Every
action that leaves the store alone keeps each such invariant: reading the clocks, waiting,
writing a log line, recording an event, taking a ticket, firing a token, passing a gate, and
running in a span, which changes only the spans log lines are written in. An operation on the
store keeps `J` when each of its successes on a store where `J` holds leaves such a store; it
then answers what the operation answered (`Action.keeps_update`, and `Action.keeps_update_world`
for an invariant of the whole world).
-/

namespace ResilientAgent

open Proc

namespace Action

variable {I : World → Prop} {J : Store → Prop} {α β : Type}

/-! Reading and waiting keep every invariant of the world. -/

theorem keeps_reading {f : World → α} :
    Keeps I (fun _ => True) (.read fun w => .pure (f w)) :=
  Keeps.read fun _ _ => keeps_pure trivial

theorem keeps_now : Keeps I (fun _ => True) now :=
  keeps_reading

theorem keeps_tick : Keeps I (fun _ => True) tick :=
  keeps_reading

theorem keeps_modify_of_store {f : World → World} (hf : ∀ w, (f w).store = w.store) :
    Keeps (fun w : World => J w.store) (fun _ => True) (Proc.modify f) :=
  Keeps.modify fun w hw => by rwa [hf]

theorem keeps_log (source : LogSource) (level : LogLevel) (message : String)
    (fields : List (String × Json)) :
    Keeps (fun w : World => J w.store) (fun _ => True) (log source level message fields) :=
  keeps_modify_of_store fun w => by split <;> rfl

theorem keeps_record (e : RuntimeEvent) :
    Keeps (fun w : World => J w.store) (fun _ => True) (record e) :=
  keeps_modify_of_store fun w => by
    dsimp only
    split <;> split <;> rfl

theorem keeps_freshTicket : Keeps (fun w : World => J w.store) (fun _ => True) freshTicket :=
  Keeps.modifyGet fun _ hw => ⟨trivial, hw⟩

theorem keeps_cancel (token : Nat) :
    Keeps (fun w : World => J w.store) (fun _ => True) (cancel token) :=
  keeps_modify_of_store fun _ => rfl

theorem keeps_sleepUntil (t : Nat) :
    Keeps I (fun _ => True) (Proc.sleepUntil t : Action Unit) :=
  Keeps.await (keeps_pure trivial)

theorem keeps_yieldNow : Keeps I (fun _ => True) (Proc.yieldNow : Action Unit) :=
  Keeps.read fun _ _ => Keeps.await (keeps_pure trivial)

theorem keeps_awaitStore (r : Except AgentError α) : Keeps I (· = r) (awaitStore r) := by
  refine Keeps.bind keeps_reading fun database _ => ?_
  dsimp only
  split
  · exact Keeps.bind keeps_yieldNow fun _ _ => keeps_pure rfl
  · exact keeps_pure rfl

/-- An operation on the store keeps an invariant `I` of the world when each of its successes on
a world where `I` holds leaves, with the new store, such a world; the action answers what the
operation answered, and a failed operation leaves the world as it was. -/
theorem keeps_update_world {f : Store → Except AgentError (β × Store)}
    {Q : Except AgentError β → Prop}
    (hf : ∀ w, I w → ∀ a s', f w.store = .ok (a, s') → Q (.ok a) ∧ I { w with store := s' })
    (herr : ∀ e, Q (.error e)) :
    Keeps I Q (update f) := by
  refine Keeps.bind (Keeps.modifyGet (Q := Q) fun w hw => ?_)
    fun r hr => (keeps_awaitStore r).mono fun _ h => h ▸ hr
  split
  · rename_i a s heq
    exact hf _ hw a s heq
  · exact ⟨herr _, hw⟩

/-- An operation on the store keeps `J` when each of its successes on a store where `J` holds
leaves such a store. -/
theorem keeps_update {f : Store → Except AgentError (β × Store)}
    {Q : Except AgentError β → Prop}
    (hf : ∀ s, J s → ∀ a s', f s = .ok (a, s') → Q (.ok a) ∧ J s')
    (herr : ∀ e, Q (.error e)) :
    Keeps (fun w : World => J w.store) Q (update f) :=
  keeps_update_world (fun w hw => hf w.store hw) herr

theorem keeps_within {P : β → Prop} (after : Duration) {body : Action β} (h : Keeps I P body) :
    Keeps I (fun o => ∀ b, o = some b → P b) (within after body) := by
  refine Keeps.bind keeps_tick fun t _ => ?_
  dsimp only
  refine Keeps.bind (Keeps.race h (keeps_sleepUntil _)) ?_
  rintro (b | ⟨⟩) hb
  · exact keeps_pure fun b' hb' => by
      cases hb'
      exact hb
  · exact keeps_pure fun b' hb' => by cases hb'

theorem keeps_inSpan {Q : α → Prop} (s : LogSpan) {body : Action α}
    (h : Keeps (fun w : World => J w.store) Q body) :
    Keeps (fun w : World => J w.store) Q (inSpan s body) := by
  unfold inSpan
  refine Keeps.seeing ?_ ?_ h
  · exact fun _ hw => hw
  · exact fun _ _ hn => hn

theorem keeps_awaitPermit (name : String) (permits ticket : Nat) :
    Keeps (fun w : World => J w.store) (fun _ => True) (awaitPermit name permits ticket) :=
  Keeps.guarded (fun _ hw => hw)
    (Keeps.bind Keeps.waitFor fun _ _ => keeps_modify_of_store fun _ => rfl)

theorem keeps_holding {Q : β → Prop} (name : String) (permits : Nat) {body : Action β}
    (h : Keeps (fun w : World => J w.store) Q body) :
    Keeps (fun w : World => J w.store) Q (holding name permits body) :=
  Keeps.bind (Keeps.guarded (fun _ hw => hw) h) fun _ hb =>
    Keeps.bind (keeps_modify_of_store fun _ => rfl) fun _ _ => keeps_pure hb

theorem keeps_through {Q : β → Prop} (name : String) (permits : Nat) {body : Action β}
    (h : Keeps (fun w : World => J w.store) Q body) :
    Keeps (fun w : World => J w.store) Q (through name permits body) := by
  refine Keeps.bind (Keeps.modifyGet (Q := fun _ => True) fun _ hw => ⟨trivial, hw⟩) ?_
  rintro ⟨ticket, entered⟩ -
  dsimp only
  split
  · exact Keeps.bind (keeps_awaitPermit name permits ticket) fun _ _ =>
      keeps_holding name permits h
  · exact keeps_holding name permits h

end Action

end ResilientAgent
