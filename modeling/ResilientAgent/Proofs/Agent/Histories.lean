import ResilientAgent.Proofs.Store.Invariant
import ResilientAgent.Proofs.Store.Calls
import ResilientAgent.Proofs.Agent.Answers
import ResilientAgent.Agent.Worker

/-!
# Stored conversations keep their shape

The store keeps one conversation per user, trimmed to the room its settings give. Each stored
conversation is empty or starts with a user message, fits in that room, and is tool-well-formed
(`Store.HistoriesInShape`), whatever jobs workers take side by side, whatever the model answers
and whatever the tools return, as long as the tools answer each call with its id and only
workers write conversations (`stored_conversations_keep_their_shape`).

The invariant is kept step by step (`Proc.Keeps`): the store operations a worker makes keep it
(`Store.load_inShape`, `Store.save_inShape`), everything else a worker does leaves the
conversations alone, and the history a worker saves is the one it loaded, in shape, followed by
the messages of its run, which start with the user message and are tool-well-formed whatever
else ran meanwhile (`AgentLoop.run_messages_wellFormed`). Trimming cuts only at a user message,
so a tool request is never separated from its results.
-/

namespace ResilientAgent

open Proc

/-- Every conversation the store holds fits in the store's room, starts with a user message and
is tool-well-formed. -/
def Store.HistoriesInShape (s : Store) : Prop :=
  ∀ e ∈ s.histories, HistoryShape s.conversationConfig.maxMessages e.2.messages

/-- A process that keeps every property of the stored conversations and of their settings, as
one that never writes them does. -/
def LeavesConversations {α : Type} (p : Action α) : Prop :=
  ∀ F : Keyed ConversationState → ConversationConfig → Prop,
    Keeps (fun w : World => F w.store.histories w.store.conversationConfig) (fun _ => True) p

/-- A change of the world that leaves the stored conversations and their settings as they were. -/
def World.SameConversations (w w' : World) : Prop :=
  w'.store.histories = w.store.histories ∧ w'.store.conversationConfig = w.store.conversationConfig

/-- A worker whose agent is a loop over the step `s`: its model and its tools leave the stored
conversations alone, and its tools answer each call with the call's id. -/
structure Worker.OverStep (wk : Worker) (s : Step) : Prop where
  step_eq : wk.agent.step = s.run
  answers : s.tools.AnswersWithCallId
  model : ∀ req, LeavesConversations (s.model req)
  tools : ∀ svc ∈ s.tools.services, ∀ inv, LeavesConversations (svc inv)

theorem LeavesConversations.keeps {α : Type} {p : Action α} (h : LeavesConversations p) :
    Keeps (fun w : World => w.store.HistoriesInShape) (fun _ => True) p :=
  h fun histories config => ∀ e ∈ histories, HistoryShape config.maxMessages e.2.messages

/-! ## The store operations a worker makes -/

namespace Store

variable {s s' : Store} {now : Instant}

theorem historiesInShape_of_same (hs : s.HistoriesInShape) (hh : s'.histories = s.histories)
    (hc : s'.conversationConfig = s.conversationConfig) : s'.HistoriesInShape := by
  unfold HistoriesInShape
  rw [hh, hc]
  exact hs

theorem records_of_tableOp {β : Type} {r : Except AgentError (β × JobTable)} {a : β}
    (h : (do s.available; let (a, jobs) ← r; return (a, { s with jobs }) :
      Except AgentError (β × Store)) = .ok (a, s')) :
    s'.histories = s.histories ∧ s'.conversationConfig = s.conversationConfig := by
  cases hav : s.available with
  | error e => simp [hav, Bind.bind, Except.bind] at h
  | ok u =>
    cases r with
    | error e => simp [hav, Bind.bind, Except.bind] at h
    | ok r =>
      simp [hav, Bind.bind, Except.bind, Pure.pure, Except.pure] at h
      obtain ⟨-, rfl⟩ := h
      exact ⟨rfl, rfl⟩

theorem dequeue_inShape {ps : List Priority} {wid : String} {a : Option (Job × Lease)}
    (hs : s.HistoriesInShape) (h : s.dequeue now ps wid = .ok (a, s')) : s'.HistoriesInShape := by
  unfold Store.dequeue at h
  cases hav : s.available with
  | error e => simp [hav, Bind.bind, Except.bind] at h
  | ok u =>
    simp [hav, Bind.bind, Except.bind, Pure.pure, Except.pure] at h
    obtain ⟨-, rfl⟩ := h
    exact hs

/-- The conversation a load answers is in shape: the stored one, or an empty one. -/
theorem load_inShape {userId : String} {st : ConversationState} (hs : s.HistoriesInShape)
    (h : s.load now userId = .ok (st, s')) :
    (StartsWithUser st.messages ∧ ToolWellFormed st.messages) ∧ s'.HistoriesInShape := by
  have hempty : StartsWithUser ([] : List Message) ∧ ToolWellFormed [] :=
    ⟨startsWithUser_nil, .nil⟩
  unfold Store.load at h
  cases hav : s.available with
  | error e => simp [hav, Bind.bind, Except.bind] at h
  | ok u =>
    simp only [hav, Bind.bind, Except.bind, Pure.pure, Except.pure] at h
    cases hget : s.histories.get? userId with
    | none =>
      simp only [hget, Except.ok.injEq, Prod.mk.injEq] at h
      obtain ⟨rfl, rfl⟩ := h
      exact ⟨hempty, hs⟩
    | some saved =>
      simp only [hget] at h
      split at h
      · -- an expired conversation is dropped
        simp only [Except.ok.injEq, Prod.mk.injEq] at h
        obtain ⟨rfl, rfl⟩ := h
        exact ⟨hempty, fun e he => hs e (List.mem_of_mem_filter he)⟩
      · simp only [Except.ok.injEq, Prod.mk.injEq] at h
        obtain ⟨rfl, rfl⟩ := h
        obtain ⟨e, he, rfl⟩ : ∃ e ∈ s.histories, e.2 = saved := by
          obtain ⟨e, hfind, rfl⟩ := Option.map_eq_some_iff.1 hget
          exact ⟨e, List.mem_of_find?_eq_some hfind, rfl⟩
        exact ⟨⟨(hs e he).startsWithUser, (hs e he).toolWellFormed⟩, hs⟩

/-- Saving a conversation that starts with a user message and is tool-well-formed keeps the
store in shape, since the store trims it before it keeps it. -/
theorem save_inShape {h₀ h' : ConversationState} (hs : s.HistoriesInShape)
    (hstart : StartsWithUser h₀.messages) (hwf : ToolWellFormed h₀.messages)
    (h : s.save now h₀ = .ok (h', s')) : s'.HistoriesInShape := by
  unfold Store.save at h
  cases hav : s.available with
  | error e => simp [hav, Bind.bind, Except.bind] at h
  | ok u =>
    simp only [hav, Bind.bind, Except.bind, Pure.pure, Except.pure, Except.ok.injEq,
      Prod.mk.injEq] at h
    obtain ⟨rfl, rfl⟩ := h
    intro e he
    rcases Keyed.mem_put he with hold | rfl
    · exact hs e hold
    · exact historyShape_trimMessages hstart hwf _

end Store

/-! ## Agents leave the conversations to the worker -/

section Agent

variable {J : Store → Prop}

theorem ToolRouter.keeps_call {r : ToolRouter}
    (htools : ∀ svc ∈ r.services, ∀ inv, Keeps (fun w : World => J w.store) (fun _ => True) (svc inv))
    (inv : ToolInvocation) : Keeps (fun w : World => J w.store) (fun _ => True) (r.call inv) :=
  htools _ (List.get_mem _ _) inv

theorem keeps_dispatch {tools : ToolRouter}
    (htools : ∀ svc ∈ tools.services, ∀ inv,
      Keeps (fun w : World => J w.store) (fun _ => True) (svc inv))
    (call : ToolCall) (scope : String) :
    Keeps (fun w : World => J w.store) (fun _ => True) (dispatch tools call scope) := by
  dsimp only [dispatch]
  refine Keeps.bind (ToolRouter.keeps_call htools _) fun o _ => ?_
  split
  · exact keeps_pure trivial
  · split
    · exact keeps_pure trivial
    · split
      · exact Keeps.bind (Action.keeps_log _ _ _ _) fun _ _ =>
          Keeps.bind (Action.keeps_record _) fun _ _ => keeps_pure trivial
      · exact keeps_pure trivial

namespace Step

variable {s : Step}
  (htools : ∀ svc ∈ s.tools.services, ∀ inv,
    Keeps (fun w : World => J w.store) (fun _ => True) (svc inv))
include htools

theorem keeps_fanOut (calls : List ToolCall) (scope : String) :
    Keeps (fun w : World => J w.store) (fun _ => True) (s.fanOut calls scope) := by
  refine Keeps.bind Action.keeps_freshTicket fun gate _ => ?_
  refine Keeps.allOk fun p hp => ?_
  obtain ⟨call, -, rfl⟩ := List.mem_map.1 hp
  split
  · exact Action.keeps_through _ _ (keeps_dispatch htools call scope)
  · exact keeps_dispatch htools call scope

theorem keeps_inTurn (scope : String) (calls : List ToolCall) :
    Keeps (fun w : World => J w.store) (fun _ => True) (s.inTurn scope calls) := by
  induction calls with
  | nil => exact keeps_pure trivial
  | cons call rest ih =>
    rw [Step.inTurn]
    refine Keeps.bind (keeps_dispatch htools call scope) fun d _ => ?_
    split
    · exact keeps_pure trivial
    · refine Keeps.bind ih fun ds _ => ?_
      split <;> exact keeps_pure trivial

theorem keeps_run
    (hmodel : ∀ req, Keeps (fun w : World => J w.store) (fun _ => True) (s.model req))
    (req : StepRequest) : Keeps (fun w : World => J w.store) (fun _ => True) (s.run req) := by
  dsimp only [Step.run]
  refine Keeps.bind (hmodel _) fun o _ => ?_
  split
  · exact keeps_pure trivial
  · split
    · exact keeps_pure trivial
    · exact keeps_pure trivial
    · split
      · exact keeps_pure trivial
      · refine Keeps.bind (Action.keeps_record _) fun _ _ => ?_
        split
        · refine Keeps.bind (keeps_fanOut htools _ _) fun d _ => ?_
          split <;> exact keeps_pure trivial
        · refine Keeps.bind (keeps_inTurn htools _ _) fun d _ => ?_
          split <;> exact keeps_pure trivial

end Step

namespace AgentLoop

/-! The loop itself only writes log lines and records its phases, so it keeps every invariant
of the world that these keep and its steps keep. -/

variable {I : World → Prop} {l : AgentLoop}
  (hlog : ∀ source level message fields,
    Keeps I (fun _ => True) (Action.log source level message fields))
  (hphase : ∀ scope state, Keeps I (fun _ => True) (Action.record (.loopPhase scope state)))
  (hstep : ∀ sr, Keeps I (fun _ => True) (l.step sr))
include hlog hphase hstep

theorem keeps_drive (req : RunRequest) :
    ∀ left k p, Keeps I (fun _ => True) (l.drive req k p left)
  | 0, k, p => Keeps.bind (hlog _ _ _ _) fun _ _ => keeps_pure trivial
  | left + 1, k, p => by
    rw [AgentLoop.drive]
    refine Keeps.bind Action.keeps_reading fun c _ => ?_
    split
    · exact keeps_pure trivial
    · refine Keeps.bind (hphase _ _) fun _ _ => ?_
      refine Keeps.bind (hstep _) fun o _ => ?_
      split
      · exact keeps_pure trivial
      · exact keeps_pure trivial
      · exact keeps_drive req left _ _

theorem keeps_run (req : RunRequest) : Keeps I (fun _ => True) (l.run req) := by
  have hbounded : Keeps I (fun _ => True) (l.bounded req) :=
    Keeps.bind (Action.keeps_within _ (keeps_drive hlog hphase hstep req _ _ _)) fun _ _ =>
      keeps_pure trivial
  have hfinish : ∀ r, Keeps I (fun _ => True) (finish req r) := by
    intro r
    unfold finish
    split
    · exact Keeps.bind (hlog _ _ _ _) fun _ _ =>
        Keeps.bind (hphase _ _) fun _ _ => keeps_pure trivial
    · exact Keeps.bind (hphase _ _) fun _ _ => keeps_pure trivial
  rw [run_eq]
  split
  · exact Keeps.bind hbounded fun r _ => hfinish r
  · refine Keeps.bind (Keeps.race hbounded Keeps.waitFor) ?_
    rintro (r | ⟨⟩) - <;> exact hfinish _

end AgentLoop

end Agent

/-! ## Workers -/

namespace Worker

/-! The heartbeat renews the lease, writes log lines and fires the run's token: it keeps every
invariant of the world that these keep. -/

variable {I : World → Prop}
  (hlog : ∀ source level message fields,
    Keeps I (fun _ => True) (Action.log source level message fields))
  (hcancel : ∀ token, Keeps I (fun _ => True) (Action.cancel token))
  (hrenew : ∀ l, Keeps I (fun _ => True) (JobQueue.renew l))
include hlog hcancel hrenew

theorem keeps_heartbeat {Q : Unit → Prop} (lease : Lease) (token start : Nat) (period : Duration) :
    ∀ left k, Keeps I Q (heartbeat lease token start period k left)
  | 0, k => Keeps.waitFor_never
  | left + 1, k => by
    rw [heartbeat]
    have hnext := keeps_heartbeat (Q := Q) lease token start period left (k + 1)
    refine Keeps.bind (Action.keeps_sleepUntil _) fun _ _ => ?_
    refine Keeps.bind (hrenew lease) fun r _ => ?_
    dsimp only
    split
    · exact Keeps.bind (hlog _ _ _ _) fun _ _ => Keeps.bind (hcancel _) fun _ _ => hnext
    · exact Keeps.bind (hlog _ _ _ _) fun _ _ => Keeps.bind (hcancel _) fun _ _ => hnext
    · exact Keeps.bind (hlog _ _ _ _) fun _ _ => hnext
    · exact hnext

theorem keeps_runWithHeartbeat {P : Except AgentError AgentRun → Prop} {wk : Worker}
    {req : RunRequest} (hrun : Keeps I P (wk.agent.run req)) (lease : Lease) (token : Nat) :
    Keeps I P (wk.runWithHeartbeat req lease token) := by
  refine Keeps.bind Action.keeps_tick fun start _ => ?_
  refine Keeps.bind (Keeps.race hrun
    (keeps_heartbeat (Q := fun _ => False) hlog hcancel hrenew lease token start _ _ _)) ?_
  rintro (r | ⟨⟩) hr
  · exact keeps_pure hr
  · exact hr.elim

end Worker

section Worker

theorem Action.keeps_update_of_same {β : Type} {f : Store → Except AgentError (β × Store)}
    (hf : ∀ s a s', f s = .ok (a, s') →
      s'.histories = s.histories ∧ s'.conversationConfig = s.conversationConfig) :
    Keeps (fun w : World => w.store.HistoriesInShape) (fun _ => True) (Action.update f) := by
  refine Action.keeps_update (fun s hs a s' h => ⟨trivial, ?_⟩) fun _ => trivial
  obtain ⟨hh, hc⟩ := hf s a s' h
  exact Store.historiesInShape_of_same hs hh hc

theorem JobQueue.keeps_renew (l : Lease) :
    Keeps (fun w : World => w.store.HistoriesInShape) (fun _ => True) (JobQueue.renew l) :=
  Keeps.bind Action.keeps_now fun _ _ =>
    Action.keeps_update_of_same fun _ _ _ h => Store.records_of_tableOp h

theorem JobQueue.keeps_complete (l : Lease) (r : JobResult) :
    Keeps (fun w : World => w.store.HistoriesInShape) (fun _ => True) (JobQueue.complete l r) :=
  Keeps.bind Action.keeps_now fun _ _ =>
    Action.keeps_update_of_same fun _ _ _ h => Store.records_of_tableOp h

theorem JobQueue.keeps_fail (l : Lease) (f : JobFailure) :
    Keeps (fun w : World => w.store.HistoriesInShape) (fun _ => True) (JobQueue.fail l f) :=
  Keeps.bind Action.keeps_now fun _ _ =>
    Action.keeps_update_of_same fun _ _ _ h => Store.records_of_tableOp h

theorem JobQueue.keeps_dequeue (ps : List Priority) (wid : String) :
    Keeps (fun w : World => w.store.HistoriesInShape) (fun _ => True)
      (JobQueue.dequeue ps wid) := by
  refine Keeps.bind Action.keeps_now fun now _ => ?_
  refine Keeps.bind (Action.keeps_update (Q := fun _ => True)
    (fun s hs a s' h => ⟨trivial, Store.dequeue_inShape hs h⟩) fun _ => trivial) fun r _ => ?_
  split
  · refine Keeps.bind Action.keeps_reading fun _ _ => ?_
    split
    · exact Keeps.bind (Action.keeps_log _ _ _ _) fun _ _ => keeps_pure trivial
    · exact keeps_pure trivial
  · exact keeps_pure trivial

theorem ConversationStore.keeps_load (userId : String) :
    Keeps (fun w : World => w.store.HistoriesInShape)
      (fun r => ∀ st, r = .ok st → StartsWithUser st.messages ∧ ToolWellFormed st.messages)
      (ConversationStore.load userId) := by
  refine Keeps.bind Action.keeps_now fun now _ => ?_
  refine Action.keeps_update (fun s hs st s' h => ?_) fun e st h => by cases h
  obtain ⟨hst, hs'⟩ := Store.load_inShape hs h
  exact ⟨fun st' h' => by cases h'; exact hst, hs'⟩

theorem ConversationStore.keeps_save {h : ConversationState} (hstart : StartsWithUser h.messages)
    (hwf : ToolWellFormed h.messages) :
    Keeps (fun w : World => w.store.HistoriesInShape) (fun _ => True)
      (ConversationStore.save h) := by
  refine Keeps.bind Action.keeps_now fun now _ => ?_
  refine Action.keeps_update (fun s hs a s' hsave => ⟨trivial, ?_⟩) fun _ => trivial
  exact Store.save_inShape hs hstart hwf hsave

namespace Worker

variable {wk : Worker} {s : Step}

theorem keeps_agent_run (hwk : wk.OverStep s) (req : RunRequest) :
    Keeps (fun w : World => w.store.HistoriesInShape)
      (fun r => ∀ run, r = .ok run →
        (∃ rest, run.messages = Message.user req.message :: rest) ∧ ToolWellFormed run.messages)
      (wk.agent.run req) := by
  have hstep : ∀ sr,
      Keeps (fun w : World => w.store.HistoriesInShape) (fun _ => True) (wk.agent.step sr) := by
    intro sr
    rw [hwk.step_eq]
    exact Step.keeps_run (fun svc hsvc inv => (hwk.tools svc hsvc inv).keeps)
      (fun req => (hwk.model req).keeps) sr
  refine Keeps.of_returns (AgentLoop.keeps_run (fun _ _ _ _ => Action.keeps_log _ _ _ _)
    (fun _ _ => Action.keeps_record _) hstep req) ?_
  refine AgentLoop.run_messages_wellFormed fun sr => ?_
  rw [hwk.step_eq]
  exact Step.run_appends_wellFormed hwk.answers sr

theorem keeps_process (hwk : wk.OverStep s) (job : Job) (lease : Lease) :
    Keeps (fun w : World => w.store.HistoriesInShape) (fun _ => True) (wk.process job lease) := by
  refine Keeps.bind (ConversationStore.keeps_load job.userId) fun loaded hloaded => ?_
  split
  · exact keeps_pure trivial
  · rename_i state
    obtain ⟨hstart, hwf⟩ := hloaded state rfl
    refine Keeps.bind Action.keeps_freshTicket fun token _ => ?_
    refine Keeps.bind
      (keeps_runWithHeartbeat (fun _ _ _ _ => Action.keeps_log _ _ _ _) Action.keeps_cancel
        JobQueue.keeps_renew (keeps_agent_run hwk _) lease token)
      fun r hr => ?_
    lift_lets
    intro settle
    have hsettle : ∀ settled, Keeps (fun w : World => w.store.HistoriesInShape) (fun _ => True)
        (settle settled) := by
      intro settled
      simp only [settle]
      split
      · exact Keeps.bind (Action.keeps_record _) fun _ _ => keeps_pure trivial
      · exact Keeps.bind (Action.keeps_log _ _ _ _) fun _ _ => keeps_pure trivial
    split
    · rename_i run
      obtain ⟨⟨rest, hrest⟩, hrun⟩ := hr run rfl
      have hsaved : StartsWithUser (state.messages ++ run.messages) := by
        refine hstart.append ?_
        rw [hrest]
        intro m hm
        cases hm
        rfl
      refine Keeps.bind (ConversationStore.keeps_save hsaved (hwf.append hrun)) fun saved _ => ?_
      split
      · exact Keeps.bind (JobQueue.keeps_complete _ _) fun settled _ => hsettle settled
      · exact Keeps.bind (JobQueue.keeps_fail _ _) fun settled _ => hsettle settled
    · exact Keeps.bind (Action.keeps_log _ _ _ _) fun _ _ =>
        Keeps.bind (JobQueue.keeps_fail _ _) fun settled _ => hsettle settled

theorem keeps_pollOnce (hwk : wk.OverStep s) :
    Keeps (fun w : World => w.store.HistoriesInShape) (fun _ => True) wk.pollOnce := by
  refine Keeps.bind (JobQueue.keeps_dequeue _ _) fun r _ => ?_
  split
  · exact keeps_pure trivial
  · exact keeps_pure trivial
  · refine Keeps.bind (Action.keeps_record _) fun _ _ => ?_
    exact Keeps.bind (Action.keeps_inSpan _ (keeps_process hwk _ _)) fun _ _ => keeps_pure trivial

end Worker

end Worker

/-- However many workers take jobs side by side, whatever the model answers and whatever the
tools return, as long as the tools answer each call with its id and only workers write the
conversations, every conversation the store holds at any point fits in the store's room,
starts with a user message and answers every tool call at once and in order. -/
theorem stored_conversations_keep_their_shape {workers : List Worker}
    (hworkers : ∀ wk ∈ workers, ∃ s, wk.OverStep s) {w₀ w : World}
    {ps : List (Σ α : Type, Action α)} (hempty : w₀.store.histories = [])
    (hrun : Reaches (fun p => ∃ wk ∈ workers, p = ⟨_, wk.pollOnce⟩) World.SameConversations w₀ w ps) :
    ∀ e ∈ w.store.histories, HistoryShape w.store.conversationConfig.maxMessages e.2.messages := by
  have h0 : w₀.store.HistoriesInShape := by
    intro e he
    rw [hempty] at he
    cases he
  refine (hrun.inv (I := fun w : World => w.store.HistoriesInShape) h0 ?_ ?_).1
  · rintro p ⟨wk, hwk, rfl⟩
    obtain ⟨s, hs⟩ := hworkers wk hwk
    exact Worker.keeps_pollOnce hs
  · rintro u u' hu ⟨hh, hc⟩
    exact Store.historiesInShape_of_same hu hh hc


/-- A tool that answers every call with the call's id. -/
def echoTool : ToolDef where
  name := "echo"
  description := "Answers with the call's id."
  parameters := .object []
  service inv := Pure.pure (.ok ⟨inv.id, "ok"⟩)

/-- A step whose model ends its turn at once, with the echo tool at hand. -/
def echoStep : Step where
  model _ := Pure.pure (.ok { content := some "done", toolCalls := [], stopReason := .endTurn })
  tools := .new [echoTool]

/-- A worker over the echo step, polling every level. -/
def echoWorker : Worker := ⟨"worker-1", ⟨echoStep.run, 4, Duration.ofMillis 1000⟩, []⟩

theorem echoWorker_overStep : echoWorker.OverStep echoStep where
  step_eq := rfl
  answers := by
    intro svc hsvc inv w w' o hexec out hout
    simp only [echoStep, ToolRouter.new, List.map_cons, List.map_nil, List.mem_cons,
      List.not_mem_nil, or_false] at hsvc
    rcases hsvc with rfl | rfl
    · cases (Exec.of_pure hexec).2
      cases hout
    · cases Exec.eq_of_pure hexec
      cases hout
      rfl
  model _ _ := keeps_pure trivial
  tools svc hsvc _ _ := by
    simp only [echoStep, ToolRouter.new, List.map_cons, List.map_nil, List.mem_cons,
      List.not_mem_nil, or_false] at hsvc
    rcases hsvc with rfl | rfl <;> exact keeps_pure trivial

theorem echo_worker_conversations_keep_their_shape :
    echoWorker.OverStep echoStep ∧
      ∀ e ∈ (default : World).store.histories,
        HistoryShape (default : World).store.conversationConfig.maxMessages e.2.messages :=
  ⟨echoWorker_overStep, stored_conversations_keep_their_shape
    (fun _ hwk => ⟨echoStep, List.mem_singleton.1 hwk ▸ echoWorker_overStep⟩) rfl
    (.enter .start ⟨echoWorker, List.mem_singleton_self _, rfl⟩)⟩

end ResilientAgent
