import ResilientAgent.Proofs.Process.Rely
import ResilientAgent.Proofs.Agent.Histories
import ResilientAgent.Proofs.Idempotency.Callers
import ResilientAgent.Proofs.Jobs.Table

/-!
# What a poll of the queue answers for

A worker's poll takes a job, records that it started it, loads the conversation of the job's
user, runs the agent, saves the conversation, settles the job and records how it ended. What a
poll leaves behind can only be stated if the rest of the system keeps away from what the poll
works on while it runs.

`World.pollView` is the part of the world a poll answers for: the stored conversations and
their settings, the kind of store, whether events are kept, the job transitions recorded, the
user and message each stored job is filed for, and the clock. Log lines, tickets, tokens, gates,
breakers, buckets, remembered results and the state of each job lie outside it. A process that
keeps every property of the view (`LeavesPollView`) is one the poll can run beside, or inside,
without losing track: the worker's own bookkeeping is such a process, and so is an agent loop
whose steps are (`AgentLoop.leavesPollView_run`). Renewing and settling a lease change a job's
state only, and keep the view following the one they found.

While a poll of job `X` for user `U` runs, the rest of the system leaves the view following the
view it found (`PollView.Follows`, the rely of the poll): the user's conversation, the settings,
the kind of store and whether events are kept as they were, no transition of `X` recorded, `X`
filed for no user or message it was not filed for before, and the clock no earlier.

The places where the poll itself changes the view are an update of the store
(`triple_update`, and `triple_inSpan_timedUpdate` for one stamped with the clock in a log span)
and the record of a transition (`triple_record`, `triple_inSpan_record`). A load finds the
conversation as `Store.seen` says, and forgets it only once it has expired.
-/

namespace ResilientAgent

open Proc

/-- The job a transition is recorded for, when the event is a job transition. -/
def RuntimeEvent.transitionOf? : RuntimeEvent → Option String
  | .jobTransition jobId _ _ => some jobId
  | _ => none

/-- The transitions recorded for job `X`, oldest first. -/
def World.transitionsOf (w : World) (X : String) : List RuntimeEvent :=
  w.events.toList.filter (·.transitionOf? == some X)

/-- The identifier, user and message of every stored job, in table order. -/
def JobTable.filing (t : JobTable) : List (String × String × String) :=
  t.slots.map fun s => (s.job.jobId, s.job.userId, s.job.message)

/-- The part of the world a poll of the queue answers for. -/
structure PollView where
  histories : Keyed ConversationState
  conversationConfig : ConversationConfig
  backend : Backend
  recording : Bool
  /-- The job transitions recorded so far, oldest first. -/
  transitions : List RuntimeEvent
  filing : List (String × String × String)
  now : Instant

def World.pollView (w : World) : PollView where
  histories := w.store.histories
  conversationConfig := w.store.conversationConfig
  backend := w.store.backend
  recording := w.recording
  transitions := w.events.toList.filter (·.transitionOf?.isSome)
  filing := w.store.jobs.filing
  now := w.now

namespace PollView

def transitionsOf (v : PollView) (X : String) : List RuntimeEvent :=
  v.transitions.filter (·.transitionOf? == some X)

/-- The view once an event is recorded: a job transition is added if events are kept. -/
def record (v : PollView) (e : RuntimeEvent) : PollView :=
  { v with transitions :=
      if v.recording then v.transitions ++ [e].filter (·.transitionOf?.isSome) else v.transitions }

/-- The view files identifier `X` for no user or message `filing` does not. -/
def FilesWithin (v : PollView) (X : String) (filing : List (String × String × String)) : Prop :=
  ∀ e ∈ v.filing, e.1 = X → e ∈ filing

/-- How the rest of a poll of job `X` for user `U` may leave the view `ref`: the user's stored
conversation, the conversation settings, the kind of store and whether events are kept as they
were, no transition of `X` recorded, `X` filed for no user or message it was not filed for, and
the clock no earlier. -/
structure Follows (X U : String) (ref v : PollView) : Prop where
  history : v.histories.get? U = ref.histories.get? U
  config : v.conversationConfig = ref.conversationConfig
  backend : v.backend = ref.backend
  recording : v.recording = ref.recording
  transitions : v.transitionsOf X = ref.transitionsOf X
  filed : v.FilesWithin X ref.filing
  clock : ref.now.sinceEpoch ≤ v.now.sinceEpoch

variable {X U : String} {ref v v' : PollView}

theorem Follows.refl (v : PollView) : v.Follows X U v :=
  ⟨rfl, rfl, rfl, rfl, rfl, fun _ he _ => he, le_refl _⟩

theorem Follows.trans (h₁ : ref.Follows X U v) (h₂ : v.Follows X U v') : ref.Follows X U v' :=
  ⟨h₂.history.trans h₁.history, h₂.config.trans h₁.config, h₂.backend.trans h₁.backend,
    h₂.recording.trans h₁.recording, h₂.transitions.trans h₁.transitions,
    fun e he hX => h₁.filed e (h₂.filed e he hX) hX, le_trans h₁.clock h₂.clock⟩

theorem Follows.of_filing (h : ref.Follows X U v) {filing : List (String × String × String)}
    (hsub : ∀ e ∈ filing, e ∈ v.filing) : ref.Follows X U { v with filing } :=
  ⟨h.history, h.config, h.backend, h.recording, h.transitions,
    fun e he hX => h.filed e (hsub e he) hX, h.clock⟩

theorem transitionsOf_record (v : PollView) (e : RuntimeEvent) :
    (v.record e).transitionsOf X =
      v.transitionsOf X ++ if v.recording && e.transitionOf? == some X then [e] else [] := by
  unfold record transitionsOf
  cases hrec : v.recording
  · simp
  · cases he : e.transitionOf? with
    | none => simp [he]
    | some Y => by_cases hY : Y = X <;> simp [he, hY]

theorem Follows.record (h : ref.Follows X U v) (e : RuntimeEvent) :
    (ref.record e).Follows X U (v.record e) := by
  refine ⟨h.history, h.config, h.backend, h.recording, ?_, h.filed, h.clock⟩
  rw [transitionsOf_record, transitionsOf_record, h.transitions, h.recording]

theorem FilesWithin.follows {filing : List (String × String × String)} (h : v.FilesWithin X filing)
    (hf : v.Follows X U v') : v'.FilesWithin X filing :=
  fun e he hX => h e (hf.filed e he hX) hX

end PollView

namespace World

variable (w : World) (X : String)

@[simp] theorem pollView_transitionsOf : w.pollView.transitionsOf X = w.transitionsOf X := by
  simp only [PollView.transitionsOf, pollView, transitionsOf, List.filter_filter]
  congr 1
  funext e
  cases h : e.transitionOf? <;> simp

theorem pollView_recordEvent (e : RuntimeEvent) :
    (w.recordEvent e).pollView = w.pollView.record e := by
  unfold recordEvent
  by_cases hrec : w.recording <;> by_cases hlog : w.logging <;>
    simp [hrec, hlog, pollView, PollView.record, List.filter_append, World.now]

/-- A change by the rest of the system that leaves job `X` and the conversation of user `U`
alone: the poll's view follows the one before. -/
def LeavesJob (X U : String) (u u' : World) : Prop :=
  u.pollView.Follows X U u'.pollView

end World

/-- A process that keeps every property of the poll's view of the world, as one that never
changes the view does. -/
def LeavesPollView {α : Type} (p : Action α) : Prop :=
  ∀ F : PollView → Prop, Keeps (fun w => F w.pollView) (fun _ => True) p

theorem stable_follows {X U : String} (ref : PollView) :
    Stable (World.LeavesJob X U) fun u => ref.Follows X U u.pollView :=
  fun _ _ hu hR => hu.trans hR

/-! ## The conversation as a load finds it -/

namespace Store

/-- The user's stored conversation as a load at `now` finds it: kept while it lives, forgotten
once it has expired. -/
def liveHistory (s : Store) (now : Instant) (userId : String) : Option ConversationState :=
  (s.histories.get? userId).filter fun h => !h.isExpired s.conversationConfig.ttl (s.stamp now)

/-- The messages a load at `now` answers for the user. -/
def seen (s : Store) (now : Instant) (userId : String) : List Message :=
  ((s.liveHistory now userId).map (·.messages)).getD []

variable {s s' : Store} {now : Instant} {userId : String}

theorem liveHistory_congr (hh : s'.histories.get? userId = s.histories.get? userId)
    (hc : s'.conversationConfig = s.conversationConfig) (hb : s'.backend = s.backend) (t : Instant) :
    s'.liveHistory t userId = s.liveHistory t userId := by
  simp only [liveHistory, stamp, hh, hc, hb]

theorem seen_congr (hh : s'.histories.get? userId = s.histories.get? userId)
    (hc : s'.conversationConfig = s.conversationConfig) (hb : s'.backend = s.backend) (t : Instant) :
    s'.seen t userId = s.seen t userId := by
  rw [seen, seen, liveHistory_congr hh hc hb]

theorem stamp_mono {a b : Instant} (hab : a.sinceEpoch ≤ b.sinceEpoch) :
    (s.stamp a).sinceEpoch ≤ (s.stamp b).sinceEpoch := by
  unfold stamp
  cases s.backend with
  | memory => exact hab
  | database =>
    exact Int.mul_le_mul_of_nonneg_right (Int.ediv_le_ediv (by decide) hab) (by decide)

theorem isExpired_mono {h : ConversationState} {a b : Instant} (hab : a.sinceEpoch ≤ b.sinceEpoch)
    (hexp : h.isExpired s.conversationConfig.ttl (s.stamp a) = true) :
    h.isExpired s.conversationConfig.ttl (s.stamp b) = true := by
  simp only [ConversationState.isExpired, decide_eq_true_eq] at hexp ⊢
  exact le_trans hexp (stamp_mono hab)

theorem seen_of_liveHistory (hh : s'.histories.get? userId = s.liveHistory now userId)
    (hc : s'.conversationConfig = s.conversationConfig) (hb : s'.backend = s.backend) {t : Instant}
    (ht : now.sinceEpoch ≤ t.sinceEpoch) : s'.seen t userId = s.seen t userId := by
  have hstamp : s'.stamp t = s.stamp t := by simp only [stamp, hb]
  unfold seen liveHistory at *
  rw [hh, hc, hstamp]
  cases hget : s.histories.get? userId with
  | none => rfl
  | some h =>
    cases hexp : h.isExpired s.conversationConfig.ttl (s.stamp now)
    · simp [Option.filter_some, hexp]
    · simp [Option.filter_some, hexp, isExpired_mono ht hexp]

theorem load_eq_ok {st : ConversationState} (h : s.load now userId = .ok (st, s')) :
    st.messages = s.seen now userId ∧
      ((∀ c, s.histories.get? userId = some c → c.userId = userId) → st.userId = userId) ∧
      s'.histories.get? userId = s.liveHistory now userId ∧
      s'.conversationConfig = s.conversationConfig ∧ s'.backend = s.backend ∧ s'.jobs = s.jobs := by
  unfold Store.load at h
  cases hav : s.available with
  | error e => simp [hav, Bind.bind, Except.bind] at h
  | ok u =>
    simp only [hav, Bind.bind, Except.bind, Pure.pure, Except.pure] at h
    unfold seen liveHistory
    cases hget : s.histories.get? userId with
    | none =>
      simp only [hget, Except.ok.injEq, Prod.mk.injEq] at h
      obtain ⟨rfl, rfl⟩ := h
      simp [hget, ConversationState.empty]
    | some c =>
      simp only [hget] at h
      split at h
      · -- an expired conversation is forgotten
        rename_i hexp
        simp only [Except.ok.injEq, Prod.mk.injEq] at h
        obtain ⟨rfl, rfl⟩ := h
        simp [Option.filter_some, hexp, ConversationState.empty, Keyed.get?_erase_self]
      · rename_i hexp
        simp only [Except.ok.injEq, Prod.mk.injEq] at h
        obtain ⟨rfl, rfl⟩ := h
        simp [Option.filter_some, hget, hexp]

theorem save_eq_ok {h h' : ConversationState} (hsave : s.save now h = .ok (h', s')) :
    s'.histories.get? h.userId =
        some ⟨h.userId, ConversationState.trimMessages h.messages s.conversationConfig.maxMessages,
          s.stamp now⟩ ∧
      s'.conversationConfig = s.conversationConfig ∧ s'.backend = s.backend ∧ s'.jobs = s.jobs := by
  unfold Store.save at hsave
  cases hav : s.available with
  | error e => simp [hav, Bind.bind, Except.bind] at hsave
  | ok u =>
    simp only [hav, Bind.bind, Except.bind, Pure.pure, Except.pure, Except.ok.injEq,
      Prod.mk.injEq] at hsave
    obtain ⟨rfl, rfl⟩ := hsave
    exact ⟨Keyed.get?_put_self _ _ _, rfl, rfl, rfl⟩

theorem save_eq_error {h : ConversationState} {e : AgentError} (hsave : s.save now h = .error e) :
    e = Backend.closedError := by
  unfold Store.save at hsave
  unfold available at hsave
  split at hsave
  · simp only [Bind.bind, Except.bind, Except.error.injEq] at hsave
    exact hsave.symm
  · simp [Bind.bind, Except.bind, Pure.pure, Except.pure] at hsave

end Store

theorem Store.eq_of_tableOp {β : Type} {s s' : Store} {r : Except AgentError (β × JobTable)} {a : β}
    (h : (do s.available; let (a, jobs) ← r; return (a, { s with jobs }) :
      Except AgentError (β × Store)) = .ok (a, s')) :
    ∃ jobs, r = .ok (a, jobs) ∧ s' = { s with jobs } := by
  cases hav : s.available with
  | error e => simp [hav, Bind.bind, Except.bind] at h
  | ok u =>
    cases r with
    | error e => simp [hav, Bind.bind, Except.bind] at h
    | ok r =>
      simp only [hav, Bind.bind, Except.bind, Pure.pure, Except.pure, Except.ok.injEq] at h
      obtain ⟨a', jobs⟩ := r
      simp only [Prod.mk.injEq] at h
      obtain ⟨rfl, rfl⟩ := h
      exact ⟨jobs, rfl, rfl⟩

theorem Store.dequeue_eq_ok {s s' : Store} {now : Instant} {ps : List Priority} {w : String}
    {o : Option (Job × Lease)} (h : s.dequeue now ps w = .ok (o, s')) :
    ∃ jobs, s.jobs.dequeue s.queueConfig s.backend now ps w = (o, jobs) ∧ s' = { s with jobs } := by
  unfold Store.dequeue at h
  cases hav : s.available with
  | error e => simp [hav, Bind.bind, Except.bind] at h
  | ok u =>
    simp only [hav, Bind.bind, Except.bind, Pure.pure, Except.pure, Except.ok.injEq,
      Prod.mk.injEq] at h
    obtain ⟨rfl, rfl⟩ := h
    exact ⟨_, rfl, rfl⟩

/-! ## What leaves the view alone -/

namespace LeavesPollView

variable {α β : Type}

theorem modify {f : World → World} (hf : ∀ w, (f w).pollView = w.pollView) :
    LeavesPollView (Proc.modify f) :=
  fun _ => Keeps.modify fun w hw => by rwa [hf]

theorem modifyGet {f : World → α × World} (hf : ∀ w, (f w).2.pollView = w.pollView) :
    LeavesPollView (Proc.modifyGet f) :=
  fun _ => Keeps.modifyGet fun w hw => ⟨trivial, by rwa [hf]⟩

end LeavesPollView

namespace Action

theorem leavesPollView_log (source : LogSource) (level : LogLevel) (message : String)
    (fields : List (String × Json)) : LeavesPollView (log source level message fields) :=
  LeavesPollView.modify fun w => by
    split <;> rfl

theorem leavesPollView_cancel (token : Nat) : LeavesPollView (cancel token) :=
  LeavesPollView.modify fun _ => rfl

theorem leavesPollView_freshTicket : LeavesPollView freshTicket :=
  LeavesPollView.modifyGet fun _ => rfl

theorem leavesPollView_record {e : RuntimeEvent} (he : e.transitionOf? = none) :
    LeavesPollView (record e) :=
  LeavesPollView.modify fun w => by
    show (w.recordEvent e).pollView = w.pollView
    rw [World.pollView_recordEvent]
    simp [PollView.record, he]

theorem keeps_inSpan_view {α : Type} {F : PollView → Prop} {Q : α → Prop} (sp : LogSpan)
    {body : Action α} (h : Keeps (fun w => F w.pollView) Q body) :
    Keeps (fun w => F w.pollView) Q (inSpan sp body) := by
  unfold inSpan
  refine Keeps.seeing ?_ ?_ h
  · exact fun _ hw => hw
  · exact fun _ _ hn => hn

end Action

/-! ## Jobs as the view files them -/

namespace JobTable

variable {t t' : JobTable} {X : String}

theorem mem_filing {s : Slot} (hs : s ∈ t.slots) :
    (s.job.jobId, s.job.userId, s.job.message) ∈ t.filing :=
  List.mem_map_of_mem hs

theorem filing_update_subset {f : Job → Job}
    (hf : ∀ s ∈ t.slots, s.job.jobId = X →
      ((f s.job).jobId, (f s.job).userId, (f s.job).message) ∈ t.filing) :
    ∀ e ∈ (t.update X f).filing, e ∈ t.filing := by
  intro e he
  simp only [filing, update, List.map_map, List.mem_map, Function.comp_apply] at he
  obtain ⟨s, hs, rfl⟩ := he
  by_cases hX : s.job.jobId = X
  · simpa [hX] using hf s hs hX
  · simpa [hX] using mem_filing hs

theorem filing_update_const {j : Job} :
    ∀ e ∈ (t.update X fun _ => j).filing, e.1 = X → e = (j.jobId, j.userId, j.message) := by
  intro e he hX
  simp only [filing, update, List.map_map, List.mem_map, Function.comp_apply] at he
  obtain ⟨s, hs, rfl⟩ := he
  by_cases hsX : s.job.jobId = X
  · simp [hsX]
  · simp [hsX] at hX

theorem settle_filing {b : Backend} {now : Instant} {L : Lease} {status : JobStatus}
    {result : Option JobResult} {error : Option JobFailure} {job : Job}
    (h : t.settle b now L status result error = .ok (job, t')) :
    (job.jobId, job.userId, job.message) ∈ t.filing ∧ ∀ e ∈ t'.filing, e ∈ t.filing := by
  obtain ⟨j, hfind, -, rfl, rfl⟩ := settle_eq_ok h
  obtain ⟨s, hs, rfl⟩ := mem_of_find? hfind
  exact ⟨mem_filing hs, filing_update_subset fun _ _ _ => mem_filing hs⟩

theorem renew_filing {b : Backend} {now : Instant} {L L' : Lease}
    (h : t.renew b now L = .ok (L', t')) : ∀ e ∈ t'.filing, e ∈ t.filing := by
  obtain ⟨j, -, -, -, rfl⟩ := renew_eq_ok h
  exact filing_update_subset fun s hs _ => mem_filing hs

theorem dequeue_filing_subset {config : QueueConfig} {b : Backend} {now : Instant}
    {ps : List Priority} {w : String} {o : Option (Job × Lease)}
    (h : t.dequeue config b now ps w = (o, t')) : ∀ e ∈ t'.filing, e ∈ t.filing := by
  rcases dequeue_cases t config b now ps w with hnone | ⟨s, hs, -, -, hgrant⟩
  · rw [hnone] at h
    cases h
    exact fun _ he => he
  · rw [hgrant] at h
    cases h
    exact filing_update_subset fun _ _ _ => mem_filing hs

theorem dequeue_filing {config : QueueConfig} {b : Backend} {now : Instant} {ps : List Priority}
    {w : String} {job : Job} {lease : Lease}
    (h : t.dequeue config b now ps w = (some (job, lease), t')) :
    lease.jobId = job.jobId ∧
      ∀ e ∈ t'.filing, e.1 = job.jobId → e = (job.jobId, job.userId, job.message) := by
  rcases dequeue_cases t config b now ps w with hnone | ⟨s, -, -, -, hgrant⟩
  · rw [hnone] at h
    cases h
  · rw [hgrant] at h
    simp only [Prod.mk.injEq, Option.some.injEq] at h
    obtain ⟨hg, rfl⟩ := h
    obtain rfl : job = (grant s.job b w config.leaseTtl now).1 := (congrArg Prod.fst hg).symm
    obtain rfl : lease = (grant s.job b w config.leaseTtl now).2 := (congrArg Prod.snd hg).symm
    exact ⟨rfl, filing_update_const⟩

end JobTable

/-- A property of the view that filing fewer jobs keeps, as renewing and settling a lease do. -/
def PollView.FilingClosed (I : PollView → Prop) : Prop :=
  ∀ v filing, I v → (∀ e ∈ filing, e ∈ v.filing) → I { v with filing }

theorem PollView.Follows.filingClosed {X U : String} (ref : PollView) :
    PollView.FilingClosed (ref.Follows X U) :=
  fun _ _ h hsub => h.of_filing hsub

namespace JobQueue

variable {I : PollView → Prop} (hI : PollView.FilingClosed I)
include hI

theorem keeps_renew_view (l : Lease) : Keeps (fun u => I u.pollView) (fun _ => True) (renew l) :=
  Keeps.bind Action.keeps_now fun _ _ => Action.keeps_update_world (fun w hw a st h => by
    obtain ⟨jobs, hjobs, rfl⟩ := Store.eq_of_tableOp h
    exact ⟨trivial, hI _ _ hw (JobTable.renew_filing hjobs)⟩) fun _ => trivial

theorem keeps_settle_view {X : String} {filing : List (String × String × String)}
    (hfiled : ∀ v, I v → ∀ e ∈ v.filing, e.1 = X → e ∈ filing) (l : Lease) (status : JobStatus)
    (result : Option JobResult) (error : Option JobFailure) :
    Keeps (fun u => I u.pollView)
      (fun r => ∀ j, r = .ok j → j.status = status ∧ (result.isSome → j.result = result) ∧
        (error.isSome → j.error = error) ∧ j.jobId = l.jobId ∧
        (j.jobId = X → (j.jobId, j.userId, j.message) ∈ filing))
      (Action.now >>= fun now => Action.update fun s => do
        s.available
        let (j, jobs) ← s.jobs.settle s.backend now l status result error
        return (j, { s with jobs })) :=
  Keeps.bind Action.keeps_now fun _ _ => Action.keeps_update_world (fun w hw a st h => by
    obtain ⟨jobs, hjobs, rfl⟩ := Store.eq_of_tableOp h
    obtain ⟨hmem, hsub⟩ := JobTable.settle_filing hjobs
    obtain ⟨j, hfind, -, rfl, -⟩ := JobTable.settle_eq_ok hjobs
    refine ⟨fun j' hj' => ?_, hI _ _ hw hsub⟩
    cases hj'
    have hid := JobTable.jobId_of_find? hfind
    exact ⟨rfl, Backend.settled_of_isSome _ _, Backend.settled_of_isSome _ _, hid,
      fun hX => hfiled _ hw _ hmem hX⟩)
    fun _ _ h => by cases h

end JobQueue

/-! ## The agent leaves the view to the worker -/

/-- The agent loop can end a run of `req` with `r`, in some run of it among others. -/
def AgentLoop.Answers (l : AgentLoop) (req : RunRequest) (r : Except AgentError AgentRun) : Prop :=
  ∃ w w', Exec w (l.run req) w' (.pure r)

namespace AgentLoop

variable {l : AgentLoop} (hstep : ∀ sr, LeavesPollView (l.step sr))
include hstep

/-- A loop whose steps leave the view alone does too: it only writes log lines and records its
phases besides. -/
theorem leavesPollView_run (req : RunRequest) : LeavesPollView (l.run req) := fun F =>
  keeps_run (fun _ _ _ _ => Action.leavesPollView_log _ _ _ _ F)
    (fun _ _ => Action.leavesPollView_record rfl F) (fun sr => hstep sr F) req

theorem keeps_answers (req : RunRequest) (F : PollView → Prop) :
    Keeps (fun w => F w.pollView) (l.Answers req) (l.run req) :=
  Keeps.of_returns (leavesPollView_run hstep req F) fun w w' _ h => ⟨w, w', h⟩

end AgentLoop

theorem Worker.keeps_run_answers {I : PollView → Prop} (hI : PollView.FilingClosed I) {wk : Worker}
    (hstep : ∀ sr, LeavesPollView (wk.agent.step sr)) (req : RunRequest) (lease : Lease)
    (token : Nat) :
    Keeps (fun u => I u.pollView) (wk.agent.Answers req) (wk.runWithHeartbeat req lease token) :=
  Worker.keeps_runWithHeartbeat (fun _ _ _ _ => Action.leavesPollView_log _ _ _ _ _)
    (fun _ => Action.leavesPollView_cancel _ _) (fun l => JobQueue.keeps_renew_view hI l)
    (AgentLoop.keeps_answers hstep req _) lease token

/-! ## Where a poll changes the view -/

/-- What an update of the store did, as the poll's view shows it afterwards: on success the view
of the world the update saw, with the new store; on failure the view of that world; each followed
since by the rest of the poll. -/
def World.Updated {β : Type} (X U : String) (f : Store → Except AgentError (β × Store)) (s : World)
    (r : Except AgentError β) (v : PollView) : Prop :=
  (∀ a st, f s.store = .ok (a, st) →
      r = .ok a ∧ ({ s with store := st } : World).pollView.Follows X U v) ∧
    ∀ e, f s.store = .error e → r = .error e ∧ s.pollView.Follows X U v

namespace World

variable {X U : String} {β : Type} {f : Store → Except AgentError (β × Store)} {s : World}
  {v : PollView}

theorem updated_of_ok {a : β} {st : Store} (hf : f s.store = .ok (a, st))
    (hv : ({ s with store := st } : World).pollView.Follows X U v) : World.Updated X U f s (.ok a) v := by
  refine ⟨fun a' st' h => ?_, fun e h => by simp [hf] at h⟩
  obtain ⟨rfl, rfl⟩ : a = a' ∧ st = st' := by simpa [hf] using h
  exact ⟨rfl, hv⟩

theorem updated_of_error {e : AgentError} (hf : f s.store = .error e)
    (hv : s.pollView.Follows X U v) : World.Updated X U f s (.error e) v := by
  refine ⟨fun a' st' h => by simp [hf] at h, fun e' h => ?_⟩
  obtain rfl : e = e' := by simpa [hf] using h
  exact ⟨rfl, hv⟩

end World

namespace Action

variable {α β : Type}

theorem inSpan_bind (sp : LogSpan) (p : Action α) (k : α → Action β) :
    inSpan sp (p >>= k) = inSpan sp p >>= fun a => inSpan sp (k a) :=
  seeing_bind _ _ p k

theorem inSpan_now (sp : LogSpan) : inSpan sp now = now := rfl

end Action

section Changes

variable {X U : String} {β : Type} {P : World → Prop}

theorem triple_awaitStore (ref : PollView) (r : Except AgentError β) :
    Triple (World.LeavesJob X U) (fun u => ref.Follows X U u.pollView) (Action.awaitStore r)
      fun r' u => r' = r ∧ ref.Follows X U u.pollView :=
  (Action.keeps_awaitStore r).triple (stable_follows ref)

theorem triple_inSpan_awaitStore (sp : LogSpan) (ref : PollView) (r : Except AgentError β) :
    Triple (World.LeavesJob X U) (fun u => ref.Follows X U u.pollView)
      (Action.inSpan sp (Action.awaitStore r)) fun r' u => r' = r ∧ ref.Follows X U u.pollView :=
  (Action.keeps_inSpan_view sp (Action.keeps_awaitStore r)).triple (stable_follows ref)

variable (hP : Stable (World.LeavesJob X U) P)
include hP

theorem triple_now : Triple (World.LeavesJob X U) P Action.now fun t u => P u ∧ t = u.now :=
  Triple.read hP fun v hv => Triple.pure fun u hu => by
    subst hu
    exact ⟨hv, rfl⟩

/-- An update of the store lands on a world where `P` held, as `World.Updated` says. -/
theorem triple_update (f : Store → Except AgentError (β × Store)) :
    Triple (World.LeavesJob X U) P (Action.update f) fun r u =>
      ∃ s, P s ∧ World.Updated X U f s r u.pollView := by
  refine Triple.bind (Triple.modifyGet hP _) fun r => ?_
  rintro _ u r' ⟨s, hs, rfl, rfl⟩ hrun
  refine ⟨s, hs, ?_⟩
  cases hf : f s.store with
  | ok x =>
    obtain ⟨a, st⟩ := x
    simp only [hf] at hrun
    obtain ⟨rfl, hfollows⟩ := triple_awaitStore _ _ _ _ _ (PollView.Follows.refl _) hrun
    exact World.updated_of_ok hf hfollows
  | error e =>
    simp only [hf] at hrun
    obtain ⟨rfl, hfollows⟩ := triple_awaitStore _ _ _ _ _ (PollView.Follows.refl _) hrun
    exact World.updated_of_error hf hfollows

theorem triple_inSpan_update (sp : LogSpan) (f : Store → Except AgentError (β × Store)) :
    Triple (World.LeavesJob X U) P (Action.inSpan sp (Action.update f)) fun r u =>
      ∃ s, P s ∧ World.Updated X U f s r u.pollView := by
  unfold Action.update
  rw [Action.inSpan_bind]
  refine Triple.bind (Triple.seeing_modifyGet hP _) fun r => ?_
  rintro _ u r' ⟨s, old, hs, -, rfl, rfl⟩ hrun
  refine ⟨s, hs, ?_⟩
  cases hf : f s.store with
  | ok x =>
    obtain ⟨a, st⟩ := x
    simp only [hf] at hrun
    obtain ⟨rfl, hfollows⟩ := triple_inSpan_awaitStore _ _ _ _ _ _ (PollView.Follows.refl _) hrun
    exact World.updated_of_ok hf hfollows
  | error e =>
    simp only [hf] at hrun
    obtain ⟨rfl, hfollows⟩ := triple_inSpan_awaitStore _ _ _ _ _ _ (PollView.Follows.refl _) hrun
    exact World.updated_of_error hf hfollows

/-- Recording an event adds it to the view's transitions, if it is one and events are kept. -/
theorem triple_record (e : RuntimeEvent) :
    Triple (World.LeavesJob X U) P (Action.record e) fun _ u =>
      ∃ s, P s ∧ u.pollView = s.pollView.record e := by
  rw [Action.record_eq, Proc.modify_eq]
  refine (Triple.modifyGet hP _).mono (fun _ h => h) ?_
  rintro _ u ⟨s, hs, -, rfl⟩
  exact ⟨s, hs, World.pollView_recordEvent s e⟩

theorem triple_inSpan_record (sp : LogSpan) (e : RuntimeEvent) :
    Triple (World.LeavesJob X U) P (Action.inSpan sp (Action.record e)) fun _ u =>
      ∃ s, P s ∧ u.pollView = s.pollView.record e := by
  rw [Action.record_eq, Proc.modify_eq]
  refine (Triple.seeing_modifyGet hP _).mono (fun _ h => h) ?_
  rintro _ u ⟨s, -, hs, -, -, rfl⟩
  exact ⟨s, hs, World.pollView_recordEvent _ e⟩

end Changes

/-- A change of the store stamped with the clock, as loading and saving a history make it: the
clock is read no earlier than `ref`'s, and the update lands, as `World.Updated` says, on a world
no earlier than that reading which follows `ref`. -/
def PollView.TimedUpdated {β : Type} (X U : String) (ref : PollView)
    (f : Instant → Store → Except AgentError (β × Store)) (r : Except AgentError β)
    (v : PollView) : Prop :=
  ∃ t s, ref.now.sinceEpoch ≤ t.sinceEpoch ∧ t.sinceEpoch ≤ s.now.sinceEpoch ∧
    ref.Follows X U s.pollView ∧ World.Updated X U (f t) s r v

theorem triple_inSpan_timedUpdate {X U : String} {β : Type} (sp : LogSpan) (ref : PollView)
    (f : Instant → Store → Except AgentError (β × Store)) :
    Triple (World.LeavesJob X U) (fun u => ref.Follows X U u.pollView)
      (Action.inSpan sp (Action.now >>= fun t => Action.update (f t))) fun r u =>
        ref.TimedUpdated X U f r u.pollView := by
  rw [Action.inSpan_bind, Action.inSpan_now]
  refine Triple.bind (triple_now (stable_follows ref)) fun t => ?_
  rintro v u r ⟨hv, rfl⟩ hrun
  obtain ⟨s, hs, hupd⟩ :=
    triple_inSpan_update (stable_follows v.pollView) sp (f v.now) _ _ _ (PollView.Follows.refl _) hrun
  exact ⟨v.now, s, hv.clock, hs.clock, hv.trans hs, hupd⟩

/-- The view once the stored conversations are `histories`, at `now`. -/
def PollView.withConversations (v : PollView) (histories : Keyed ConversationState)
    (now : Instant) : PollView :=
  { v with histories, now }

namespace PollView.TimedUpdated

variable {X U : String} {β : Type} {ref v : PollView}
  {f : Instant → Store → Except AgentError (β × Store)}

theorem of_ok {a : β} (h : ref.TimedUpdated X U f (.ok a) v)
    (hf : ∀ t s a st, f t s = .ok (a, st) →
      st.conversationConfig = s.conversationConfig ∧ st.backend = s.backend ∧ st.jobs = s.jobs) :
    ∃ (t : Instant) (s : World) (st : Store), ref.now.sinceEpoch ≤ t.sinceEpoch ∧ ref.Follows X U s.pollView ∧
      f t s.store = .ok (a, st) ∧ (ref.withConversations st.histories t).Follows X U v := by
  obtain ⟨t, s, hrt, hts, hfollows, hok, herr⟩ := h
  cases hfs : f t s.store with
  | error e => simpa using (herr e hfs).1
  | ok x =>
    obtain ⟨a', st⟩ := x
    obtain ⟨ha, hv⟩ := hok a' st hfs
    cases ha
    obtain ⟨hc, hb, hj⟩ := hf _ _ _ _ hfs
    refine ⟨t, s, st, hrt, hfollows, hfs, Follows.trans ?_ hv⟩
    have hfiling : st.jobs.filing = s.pollView.filing := congrArg JobTable.filing hj
    exact ⟨rfl, hc.trans hfollows.config, hb.trans hfollows.backend, hfollows.recording,
      hfollows.transitions, fun e he hX => hfollows.filed e (hfiling ▸ he) hX, hts⟩

theorem of_error {e : AgentError} (h : ref.TimedUpdated X U f (.error e) v) :
    ∃ (t : Instant) (s : World), ref.Follows X U s.pollView ∧ f t s.store = .error e ∧ ref.Follows X U v := by
  obtain ⟨t, s, -, -, hfollows, hok, herr⟩ := h
  cases hfs : f t s.store with
  | ok x =>
    obtain ⟨a, st⟩ := x
    simpa using (hok a st hfs).1
  | error e' =>
    obtain ⟨he, hv⟩ := herr e' hfs
    cases he
    exact ⟨t, s, hfollows, hfs, hfollows.trans hv⟩

end PollView.TimedUpdated

theorem triple_inSpan_of_keeps {X U : String} {α : Type} (sp : LogSpan) (ref : PollView)
    {Q : α → Prop} {p : Action α} (h : Keeps (fun u => ref.Follows X U u.pollView) Q p) :
    Triple (World.LeavesJob X U) (fun u => ref.Follows X U u.pollView) (Action.inSpan sp p)
      fun a u => Q a ∧ ref.Follows X U u.pollView :=
  (Action.keeps_inSpan_view sp h).triple (stable_follows ref)

end ResilientAgent
