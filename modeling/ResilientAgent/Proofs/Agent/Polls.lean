import ResilientAgent.Proofs.Agent.Frames

/-!
# A poll settles the job it takes

A worker's poll takes the next job, records that it started it, loads the conversation of the
job's user, runs the agent on it with the job's message, saves the conversation with the run's
messages, and settles the job: completed with the run's result once the conversation is saved,
failed with the run's error or the save's refusal. `Worker.Settles` says how a job and the
conversation of its user end, and `Worker.poll_settles_job` that a poll which answers a job
ends them so, while the rest of the system leaves the job and the conversation alone
(`World.LeavesJob`). The job's transitions are then the two the poll records: queued to
processing, and processing to where the job ended.

The processing is followed step by step through the rely-guarantee triples of
`ResilientAgent.Proc.Triple`: each load, save and record of a transition changes the view as the
frame lemmas say, and every other step keeps the view following the one it found.
-/

namespace ResilientAgent

open Proc

/-! ## How a job ends -/

/-- How a worker's run of `req` ends job `j` of user `U`, the request's history being the
conversation a load at `t₀` found in the store `before`: completed with the result of a run of
the agent, once `after` holds the conversation with the run's messages, trimmed, stamped at some
`t₁` between `t₀` and `t`; or failed with the agent's error, or with the refusal of the save
after a run, `after` showing every load from `t₀` on the conversation `before` showed it. -/
def Worker.Settles (wk : Worker) (req : RunRequest) (U : String) (before after : Store)
    (t₀ t : Instant) (j : Job) : Prop :=
  (∃ run, wk.agent.Answers req (.ok run) ∧ j.status = .completed ∧
      j.result = some (JobResult.ofRun run) ∧
      ∃ t₁ : Instant, t₀.sinceEpoch ≤ t₁.sinceEpoch ∧ t₁.sinceEpoch ≤ t.sinceEpoch ∧
        after.histories.get? U = some ⟨U, ConversationState.trimMessages
          (req.history ++ run.messages) before.conversationConfig.maxMessages, before.stamp t₁⟩) ∨
  (∃ e, (wk.agent.Answers req (.error e) ∨
      (∃ run, wk.agent.Answers req (.ok run)) ∧ e = Backend.closedError) ∧
    j.status = .failed ∧ j.error = some (JobFailure.ofError e) ∧
    ∀ t', t₀.sinceEpoch ≤ t'.sinceEpoch → after.seen t' U = before.seen t' U)

namespace Worker.Settles

variable {wk : Worker} {req : RunRequest} {U : String} {before before' after after' : Store}
  {t₀ t t' : Instant} {j : Job}

theorem congr (h : wk.Settles req U before after t₀ t j)
    (hh : before'.histories.get? U = before.histories.get? U)
    (hc : before'.conversationConfig = before.conversationConfig)
    (hb : before'.backend = before.backend)
    (hh' : after'.histories.get? U = after.histories.get? U)
    (hc' : after'.conversationConfig = after.conversationConfig)
    (hb' : after'.backend = after.backend) (ht : t.sinceEpoch ≤ t'.sinceEpoch) :
    wk.Settles req U before' after' t₀ t' j := by
  have hstamp : before'.stamp = before.stamp := by
    funext t₁
    simp only [Store.stamp, hb]
  rcases h with ⟨run, hrun, hstatus, hresult, t₁, ht₀, ht₁, hsaved⟩ | ⟨e, he, hstatus, herror, hseen⟩
  · exact .inl ⟨run, hrun, hstatus, hresult, t₁, ht₀, le_trans ht₁ ht, by
      rw [hh', hsaved, hc, hstamp]⟩
  · refine .inr ⟨e, he, hstatus, herror, fun t'' ht'' => ?_⟩
    rw [Store.seen_congr hh' hc' hb', hseen t'' ht'', Store.seen_congr hh hc hb]

end Worker.Settles

theorem Triple.inSpan_bind {R : World → World → Prop} {α β : Type} {P : World → Prop}
    {Q : α → World → Prop} {S : β → World → Prop} {sp : LogSpan} {p : Action α}
    {k : α → Action β} (hp : Triple R P (Action.inSpan sp p) Q)
    (hk : ∀ a, Triple R (Q a) (Action.inSpan sp (k a)) S) :
    Triple R P (Action.inSpan sp (p >>= k)) S := by
  rw [Action.inSpan_bind]
  exact Triple.bind hp hk

/-! ## What processing a job leaves -/

/-- The request a worker runs for `job` on the conversation `history`, cancelled by `token`. -/
def Job.request (job : Job) (history : List Message) (token : Nat) : RunRequest :=
  { history, message := job.message, scope := job.jobId, cancel := some token }

/-- What a worker's processing of `job`, answered with the settled job `j`, leaves in the world
`u`, seen from the world `s` it started in: `j` is job `X`, filed as `s` filed it, and a run of
the agent on the conversation a load at `t₀` found in `s` ended it as `Worker.Settles` says. -/
structure Worker.Outcome (wk : Worker) (X U : String) (s : World) (job j : Job) (u : World) :
    Prop where
  jobId : j.jobId = X
  filed : (j.jobId, j.userId, j.message) ∈ s.store.jobs.filing
  settles : ∃ t₀ token, s.now.sinceEpoch ≤ t₀.sinceEpoch ∧ t₀.sinceEpoch ≤ u.now.sinceEpoch ∧
    wk.Settles (job.request (s.store.seen t₀ U) token) U s.store u.store t₀ u.now j

namespace Worker.Outcome

variable {wk : Worker} {X U : String} {s u u' : World} {job j : Job}

theorem congr (h : wk.Outcome X U s job j u)
    (hh : u'.store.histories.get? U = u.store.histories.get? U)
    (hc : u'.store.conversationConfig = u.store.conversationConfig)
    (hb : u'.store.backend = u.store.backend) (hn : u.now.sinceEpoch ≤ u'.now.sinceEpoch) :
    wk.Outcome X U s job j u' := by
  obtain ⟨hid, hfiled, t₀, token, ht₀, hle, hsettles⟩ := h
  exact ⟨hid, hfiled, t₀, token, ht₀, le_trans hle hn, hsettles.congr rfl rfl rfl hh hc hb hn⟩

theorem follows (h : wk.Outcome X U s job j u) (hf : u.pollView.Follows X U u'.pollView) :
    wk.Outcome X U s job j u' :=
  h.congr hf.history hf.config hf.backend hf.clock

end Worker.Outcome

/-! ## The conversation through a poll -/

section Conversation

variable {X U : String} {s : World} {v : PollView}

theorem loaded_of_timedUpdated {state : ConversationState}
    (hkeyed : ∀ c, s.store.histories.get? U = some c → c.userId = U)
    (h : s.pollView.TimedUpdated X U (fun t st => st.load t U) (.ok state) v) :
    ∃ t₀ histories, (s.now.sinceEpoch ≤ t₀.sinceEpoch ∧ state.messages = s.store.seen t₀ U ∧
      state.userId = U ∧ histories.get? U = s.store.liveHistory t₀ U) ∧
      (s.pollView.withConversations histories t₀).Follows X U v := by
  obtain ⟨t₀, s₀, st₁, ht₀, hs₀, hload, hfollows⟩ :=
    h.of_ok fun _ _ _ _ h => (Store.load_eq_ok h).2.2.2
  obtain ⟨hmsgs, hid, hlive, -⟩ := Store.load_eq_ok hload
  have hh : s₀.store.histories.get? U = s.store.histories.get? U := hs₀.history
  have hc : s₀.store.conversationConfig = s.store.conversationConfig := hs₀.config
  have hb : s₀.store.backend = s.store.backend := hs₀.backend
  refine ⟨t₀, st₁.histories, ⟨ht₀, ?_, hid fun c hc' => hkeyed c (hh ▸ hc'), ?_⟩, hfollows⟩
  · rw [hmsgs, Store.seen_congr hh hc hb]
  · rw [hlive, Store.liveHistory_congr hh hc hb]

theorem saved_of_timedUpdated {ref : PollView} {h h' : ConversationState}
    (hsaved : ref.TimedUpdated X U (fun t st => st.save t h) (.ok h') v) :
    ∃ t₁ histories, (ref.now.sinceEpoch ≤ t₁.sinceEpoch ∧
      histories.get? h.userId = some ⟨h.userId, ConversationState.trimMessages h.messages
        ref.conversationConfig.maxMessages, ref.backend.stamp t₁⟩) ∧
      (ref.withConversations histories t₁).Follows X U v := by
  obtain ⟨t₁, s₂, st₂, ht₁, hs₂, hsave, hfollows⟩ :=
    hsaved.of_ok fun _ _ _ _ h => (Store.save_eq_ok h).2
  obtain ⟨hfiled, -⟩ := Store.save_eq_ok hsave
  have hc : s₂.store.conversationConfig = ref.conversationConfig := hs₂.config
  have hb : s₂.store.backend = ref.backend := hs₂.backend
  refine ⟨t₁, st₂.histories, ⟨ht₁, ?_⟩, hfollows⟩
  rw [hfiled, Store.stamp, hc, hb]

theorem refused_of_timedUpdated {ref : PollView} {h : ConversationState} {e : AgentError}
    (hsaved : ref.TimedUpdated X U (fun t st => st.save t h) (.error e) v) :
    e = Backend.closedError ∧ ref.Follows X U v := by
  obtain ⟨t₁, s₂, -, hsave, hfollows⟩ := hsaved.of_error
  exact ⟨Store.save_eq_error hsave, hfollows⟩

theorem seen_of_follows_load {histories : Keyed ConversationState} {t₀ : Instant} {u : World}
    (hlive : histories.get? U = s.store.liveHistory t₀ U)
    (h : (s.pollView.withConversations histories t₀).Follows X U u.pollView) :
    ∀ t, t₀.sinceEpoch ≤ t.sinceEpoch → u.store.seen t U = s.store.seen t U :=
  fun _ ht => Store.seen_of_liveHistory (h.history.trans hlive) h.config h.backend ht

theorem transitionsOf_of_record {u : World} {from? : Option JobStatus} {status : JobStatus}
    (hu : u.pollView = v.record (.jobTransition X from? status)) :
    u.transitionsOf X = v.transitionsOf X ++
      if v.recording then [.jobTransition X from? status] else [] := by
  rw [← World.pollView_transitionsOf, hu, PollView.transitionsOf_record]
  simp [RuntimeEvent.transitionOf?]

end Conversation

/-! ## Processing a job -/

theorem Action.keeps_update_jobs {β : Type} {J : JobTable → Prop}
    {f : Store → Except AgentError (β × Store)} (hf : ∀ s a s', f s = .ok (a, s') → s'.jobs = s.jobs) :
    Keeps (fun w : World => J w.store.jobs) (fun _ => True) (Action.update f) :=
  Action.keeps_update (J := fun s => J s.jobs) (fun s hs a s' h => ⟨trivial, (hf s a s' h) ▸ hs⟩)
    fun _ => trivial

theorem Worker.Outcome.record {wk : Worker} {X U : String} {s u u' : World} {job j : Job}
    {e : RuntimeEvent} (h : wk.Outcome X U s job j u) (hu : u'.pollView = u.pollView.record e) :
    wk.Outcome X U s job j u' :=
  h.congr (congrArg (fun v => v.histories.get? U) hu) (congrArg PollView.conversationConfig hu)
    (congrArg PollView.backend hu) (le_of_eq (congrArg (fun v => v.now.sinceEpoch) hu).symm)

theorem Worker.stable_outcome {wk : Worker} {X U : String} (s : World) (job : Job)
    (settled : Except AgentError Job) :
    Stable (World.LeavesJob X U) fun u => ∀ j, settled = .ok j →
      wk.Outcome X U s job j u ∧ u.pollView.transitionsOf X = s.pollView.transitionsOf X ∧
        u.recording = s.recording := fun _ _ hu hR j hj => by
  obtain ⟨houtcome, htrans, hrec⟩ := hu j hj
  exact ⟨houtcome.follows hR, (PollView.Follows.transitions hR).trans htrans,
    (PollView.Follows.recording hR).trans hrec⟩

section Process

variable {wk : Worker} (hstep : ∀ sr, LeavesPollView (wk.agent.step sr))
include hstep

theorem Worker.triple_process (sp : LogSpan) (s : World) (job : Job) (lease : Lease)
    (hkeyed : ∀ c, s.store.histories.get? job.userId = some c → c.userId = job.userId) :
    Triple (World.LeavesJob lease.jobId job.userId)
      (fun u => s.pollView.Follows lease.jobId job.userId u.pollView)
      (Action.inSpan sp (wk.process job lease)) fun r u => ∀ j, r = .ok j →
        wk.Outcome lease.jobId job.userId s job j u ∧
          u.transitionsOf lease.jobId = s.transitionsOf lease.jobId ++
            if s.recording then [.jobTransition lease.jobId (some .processing) j.status] else [] := by
  unfold Worker.process
  refine Triple.inSpan_bind (triple_inSpan_timedUpdate sp s.pollView _) fun loaded => ?_
  rcases loaded with e | state
  · exact Triple.pure fun _ _ j hj => by cases hj
  refine Triple.mono ?_ (fun u hu => loaded_of_timedUpdated hkeyed hu) fun _ _ h => h
  refine Triple.of_exists fun t₀ => Triple.of_exists fun hs₁ =>
    Triple.of_imp fun ⟨ht₀, hmsgs, huser, hlive⟩ => ?_
  refine Triple.inSpan_bind (triple_inSpan_of_keeps sp _ (Action.leavesPollView_freshTicket _))
    fun token => Triple.of_imp fun _ => ?_
  refine Triple.inSpan_bind (triple_inSpan_of_keeps sp _
    (Worker.keeps_run_answers (PollView.Follows.filingClosed _) hstep _ lease token))
    fun outcome => Triple.of_imp fun hanswer => ?_
  lift_lets
  intro settle
  have hsettle : ∀ settled, Triple (World.LeavesJob lease.jobId job.userId)
      (fun u => ∀ j, settled = .ok j → wk.Outcome lease.jobId job.userId s job j u ∧
        u.pollView.transitionsOf lease.jobId = s.pollView.transitionsOf lease.jobId ∧
        u.recording = s.recording)
      (Action.inSpan sp (settle settled)) fun r u => ∀ j, r = .ok j →
        wk.Outcome lease.jobId job.userId s job j u ∧
          u.transitionsOf lease.jobId = s.transitionsOf lease.jobId ++
            if s.recording then [.jobTransition lease.jobId (some .processing) j.status]
            else [] := by
    intro settled
    simp only [settle]
    split
    · rename_i j
      refine Triple.inSpan_bind (triple_inSpan_record (Worker.stable_outcome s job (.ok j)) sp _)
        fun _ => ?_
      refine Triple.pure fun u ⟨s₃, hs₃, hu⟩ j' hj' => ?_
      cases hj'
      obtain ⟨houtcome, htrans, hrec⟩ := hs₃ j rfl
      have hid : j.jobId = lease.jobId := houtcome.jobId
      refine ⟨houtcome.record hu, ?_⟩
      have hrec' : s₃.pollView.recording = s.recording := hrec
      rw [hid] at hu
      rw [transitionsOf_of_record hu, htrans, hrec', World.pollView_transitionsOf]
    · exact Triple.inSpan_bind (fun _ _ _ _ _ => trivial) fun _ =>
        Triple.pure fun _ _ j hj => by cases hj
  have hrequest : wk.agent.Answers (job.request (s.store.seen t₀ job.userId) token) outcome := by
    rw [← hmsgs]
    exact hanswer
  rcases outcome with e | run
  · -- the run failed: the failure is logged, and the job failed with it
    refine Triple.inSpan_bind (triple_inSpan_of_keeps sp _ (Action.leavesPollView_log _ _ _ _ _))
      fun _ => Triple.of_imp fun _ => ?_
    refine Triple.inSpan_bind (triple_inSpan_of_keeps sp _
      (JobQueue.keeps_settle_view (PollView.Follows.filingClosed _) (fun _ hv => hv.filed) lease
        .failed none (some (JobFailure.ofError e)))) fun settled => ?_
    refine (hsettle settled).mono (fun u ⟨hsettled, hfollows⟩ j hj => ?_) fun _ _ h => h
    obtain ⟨hstatus, -, herror, hid, hfiled⟩ := hsettled j hj
    exact ⟨⟨hid, hfiled hid, t₀, token, ht₀, hfollows.clock, .inr ⟨e, .inl hrequest, hstatus,
      herror rfl,
      seen_of_follows_load hlive hfollows⟩⟩, hfollows.transitions, hfollows.recording⟩
  refine Triple.inSpan_bind (triple_inSpan_timedUpdate sp _ _) fun saved => ?_
  rcases saved with e | saved
  · -- the save was refused: the job failed with the refusal
    refine Triple.mono ?_ (fun u hu => refused_of_timedUpdated hu) fun _ _ h => h
    refine Triple.of_imp fun hclosed => ?_
    refine Triple.inSpan_bind (triple_inSpan_of_keeps sp _
      (JobQueue.keeps_settle_view (PollView.Follows.filingClosed _) (fun _ hv => hv.filed) lease
        .failed none (some (JobFailure.ofError e)))) fun settled => ?_
    refine (hsettle settled).mono (fun u ⟨hsettled, hfollows⟩ j hj => ?_) fun _ _ h => h
    obtain ⟨hstatus, -, herror, hid, hfiled⟩ := hsettled j hj
    exact ⟨⟨hid, hfiled hid, t₀, token, ht₀, hfollows.clock,
      .inr ⟨e, .inr ⟨⟨run, hrequest⟩, hclosed⟩, hstatus, herror rfl,
      seen_of_follows_load hlive hfollows⟩⟩, hfollows.transitions, hfollows.recording⟩
  · -- the save filed the conversation: the job completed with the run's result
    refine Triple.mono ?_ (fun u hu => saved_of_timedUpdated hu) fun _ _ h => h
    refine Triple.of_exists fun t₁ => Triple.of_exists fun hs₂ =>
      Triple.of_imp fun ⟨ht₁, hfiled₂⟩ => ?_
    refine Triple.inSpan_bind (triple_inSpan_of_keeps sp _
      (JobQueue.keeps_settle_view (PollView.Follows.filingClosed _) (fun _ hv => hv.filed) lease
        .completed (some (JobResult.ofRun run)) none)) fun settled => ?_
    refine (hsettle settled).mono (fun u ⟨hsettled, hfollows⟩ j hj => ?_) fun _ _ h => h
    obtain ⟨hstatus, hresult, -, hid, hfiled⟩ := hsettled j hj
    refine ⟨⟨hid, hfiled hid, t₀, token, ht₀, le_trans ht₁ hfollows.clock,
      .inl ⟨run, hrequest, hstatus, hresult rfl, t₁, ht₁, hfollows.clock, ?_⟩⟩,
      hfollows.transitions, hfollows.recording⟩
    have hrecord : u.store.histories.get? job.userId = hs₂.get? job.userId := hfollows.history
    dsimp only at hfiled₂
    rw [huser, hmsgs] at hfiled₂
    rw [hrecord, hfiled₂]
    rfl

theorem Worker.keeps_process_filed (sp : LogSpan) (X : String)
    (filing : List (String × String × String)) (job : Job) (lease : Lease) :
    Keeps (fun u => u.pollView.FilesWithin X filing)
      (fun r => ∀ j, r = .ok j →
        j.jobId = lease.jobId ∧ (j.jobId = X → (j.jobId, j.userId, j.message) ∈ filing))
      (Action.inSpan sp (wk.process job lease)) := by
  have hclosed : PollView.FilingClosed (·.FilesWithin X filing) :=
    fun _ _ hv hsub e he hX => hv e (hsub e he) hX
  have hupdate : ∀ {β : Type} {f : Store → Except AgentError (β × Store)},
      (∀ s a s', f s = .ok (a, s') → s'.jobs = s.jobs) →
      Keeps (fun u => u.pollView.FilesWithin X filing) (fun _ => True) (Action.update f) :=
    fun hf => Action.keeps_update_jobs (J := fun t => ∀ e ∈ t.filing, e.1 = X → e ∈ filing) hf
  refine Action.keeps_inSpan_view (F := (·.FilesWithin X filing)) sp ?_
  unfold Worker.process
  refine Keeps.bind (Keeps.bind Action.keeps_now fun _ _ =>
    hupdate fun _ _ _ h => (Store.load_eq_ok h).2.2.2.2.2) fun loaded _ => ?_
  split
  · exact keeps_pure fun _ hj => by cases hj
  refine Keeps.bind (Action.leavesPollView_freshTicket (·.FilesWithin X filing)) fun token _ => ?_
  refine Keeps.bind (Worker.keeps_run_answers hclosed hstep _ lease token) fun outcome _ => ?_
  lift_lets
  intro settle
  have hsettle : ∀ settled status result error, (∀ j, settled = .ok j → j.status = status ∧
      (result.isSome → j.result = result) ∧ (error.isSome → j.error = error) ∧
      j.jobId = lease.jobId ∧
      (j.jobId = X → (j.jobId, j.userId, j.message) ∈ filing)) →
      Keeps (fun u => u.pollView.FilesWithin X filing)
        (fun r => ∀ j, r = .ok j →
          j.jobId = lease.jobId ∧ (j.jobId = X → (j.jobId, j.userId, j.message) ∈ filing))
        (settle settled) := by
    intro settled status result error hsettled
    simp only [settle]
    split
    · rename_i j
      refine Keeps.bind (Action.keeps_record (J := fun s => ∀ e ∈ s.jobs.filing, e.1 = X → e ∈ filing) _) fun _ _ =>
        keeps_pure fun j' hj' => ?_
      cases hj'
      exact (hsettled j rfl).2.2.2
    · exact Keeps.bind (Action.leavesPollView_log _ _ _ _ (·.FilesWithin X filing)) fun _ _ =>
        keeps_pure fun _ hj => by cases hj
  split
  · refine Keeps.bind (Keeps.bind Action.keeps_now fun _ _ =>
      hupdate fun _ _ _ h => (Store.save_eq_ok h).2.2.2) fun saved _ => ?_
    split
    · exact Keeps.bind (JobQueue.keeps_settle_view hclosed (fun _ hv => hv) lease _ _ _)
        fun settled h => hsettle settled _ _ _ h
    · exact Keeps.bind (JobQueue.keeps_settle_view hclosed (fun _ hv => hv) lease _ _ _)
        fun settled h => hsettle settled _ _ _ h
  · exact Keeps.bind (Action.leavesPollView_log _ _ _ _ (·.FilesWithin X filing)) fun _ _ =>
      Keeps.bind (JobQueue.keeps_settle_view hclosed (fun _ hv => hv) lease _ _ _)
        fun settled h => hsettle settled _ _ _ h

end Process

/-! ## Taking a job -/

/-- What a dequeue answering `r` leaves of a view that followed `ref`: the view follows `ref`
still, and a granted job is held under its own identifier, which the table files for the job's
user and message alone when it is `X`. -/
def PollView.Dequeued (X U : String) (ref : PollView)
    (r : Except AgentError (Option (Job × Lease))) (v : PollView) : Prop :=
  ref.Follows X U v ∧ ∀ taken lease, r = .ok (some (taken, lease)) →
    lease.jobId = taken.jobId ∧
      (taken.jobId = X → v.FilesWithin X [(X, taken.userId, taken.message)])

theorem PollView.Dequeued.stable {X U : String} (ref : PollView)
    (r : Except AgentError (Option (Job × Lease))) :
    Stable (World.LeavesJob X U) fun u => ref.Dequeued X U r u.pollView := by
  rintro u u' ⟨hfollows, htaken⟩ hR
  refine ⟨hfollows.trans hR, fun taken lease hr => ?_⟩
  obtain ⟨hlease, hfiled⟩ := htaken taken lease hr
  exact ⟨hlease, fun hX => (hfiled hX).follows hR⟩

theorem PollView.dequeued_of_updated {X U : String} {ref : PollView} {now : Instant}
    {ps : List Priority} {wid : String} {r : Except AgentError (Option (Job × Lease))}
    {v : PollView}
    (h : ∃ s : World, ref.Follows X U s.pollView ∧
      World.Updated X U (·.dequeue now ps wid) s r v) :
    ref.Dequeued X U r v := by
  obtain ⟨s, hs, hok, herr⟩ := h
  cases hd : s.store.dequeue now ps wid with
  | error e =>
    obtain ⟨rfl, hv⟩ := herr e hd
    exact ⟨hs.trans hv, fun _ _ h => by cases h⟩
  | ok x =>
    obtain ⟨o, st⟩ := x
    obtain ⟨rfl, hv⟩ := hok o st hd
    obtain ⟨jobs, hjobs, rfl⟩ := Store.dequeue_eq_ok hd
    refine ⟨(hs.of_filing (JobTable.dequeue_filing_subset hjobs)).trans hv,
      fun taken lease hr => ?_⟩
    cases hr
    obtain ⟨hlease, hconst⟩ := JobTable.dequeue_filing hjobs
    refine ⟨hlease, fun hX e he heX => ?_⟩
    rw [hconst e (hv.filed e he heX) (heX.trans hX.symm), hX]
    exact List.mem_singleton_self _

theorem JobQueue.triple_dequeue {X U : String} (ref : PollView) (ps : List Priority)
    (wid : String) :
    Triple (World.LeavesJob X U) (fun u => ref.Follows X U u.pollView) (JobQueue.dequeue ps wid)
      fun r u => ref.Dequeued X U r u.pollView := by
  unfold JobQueue.dequeue
  refine Triple.bind (triple_now (stable_follows ref)) fun now => ?_
  refine Triple.mono ?_ (fun _ hu => hu.1) fun _ _ h => h
  refine Triple.bind (triple_update (stable_follows ref) _) fun r => ?_
  refine Triple.mono (Keeps.triple (Q := (· = r)) ?_ (PollView.Dequeued.stable ref r))
    (fun _ hu => PollView.dequeued_of_updated hu) fun r' _ ⟨hr', hv⟩ => hr' ▸ hv
  lift_lets
  intro answer
  have hanswer : ∀ x, Keeps (fun u => ref.Dequeued X U r u.pollView) (· = r) (answer x) :=
    fun _ => keeps_pure rfl
  split
  · refine Keeps.bind Action.keeps_reading fun _ _ => ?_
    split
    · exact Keeps.bind (Action.leavesPollView_log _ _ _ _ _) fun x _ => hanswer x
    · exact hanswer ()
  · exact hanswer ()

/-! ## A poll -/

/-- Every poll of the queue that answers job `X` of user `U`, in a run where the rest of the
system leaves the job and the user's conversation alone, settled it as `Worker.Settles` says, on
the conversation a load at some `t₀` during the poll found: completed with the run's result once
the conversation with the run's messages is saved, or failed with the run's error or the save's
refusal, the conversation left as every later load found it. The job's transitions recorded
meanwhile are queued to processing, then processing to where it ended. -/
theorem Worker.poll_settles_job {wk : Worker} (hstep : ∀ sr, LeavesPollView (wk.agent.step sr))
    (w : World) (X U : String) (hrecording : w.recording = true)
    (hkeyed : ∀ c, w.store.histories.get? U = some c → c.userId = U) :
    Triple (World.LeavesJob X U) (· = w) wk.pollOnce fun r w' => ∀ job, r = .ok (some job) →
      job.jobId = X → job.userId = U →
      ∃ t₀ token, w.now.sinceEpoch ≤ t₀.sinceEpoch ∧ t₀.sinceEpoch ≤ w'.now.sinceEpoch ∧
        wk.Settles (job.request (w.store.seen t₀ U) token) U w.store w'.store t₀ w'.now job ∧
        w'.transitionsOf X = w.transitionsOf X ++
          [.jobTransition X (some .queued) .processing,
            .jobTransition X (some .processing) job.status] := by
  refine Triple.mono (P := fun u => w.pollView.Follows X U u.pollView) ?_
    (fun u hu => by
      subst hu
      exact PollView.Follows.refl _) fun _ _ h => h
  unfold Worker.pollOnce
  refine Triple.bind (JobQueue.triple_dequeue w.pollView _ _) fun dequeued => ?_
  rcases dequeued with e | _ | ⟨taken, lease⟩
  · exact Triple.pure fun _ _ job hjob => by cases hjob
  · exact Triple.pure fun _ _ job hjob => by cases hjob
  refine Triple.bind (triple_record (PollView.Dequeued.stable _ _) _) fun _ => ?_
  refine Triple.of_exists fun s₁ => ?_
  rintro u₁ u r ⟨⟨hfollows₁, htaken⟩, hu₁⟩ hrun
  obtain ⟨hlease, hfiled⟩ := htaken taken lease rfl
  have hfiled₁ : taken.jobId = X → u₁.pollView.FilesWithin X [(X, taken.userId, taken.message)] :=
    fun hX => by
      rw [hu₁]
      exact hfiled hX
  obtain ⟨u₂, settled, hprocess, hend⟩ := hrun.of_bind_pure
  obtain ⟨rfl, hr⟩ := hend.of_pure
  cases hr
  intro job hjob hX hU
  rcases settled with e | j
  · cases hjob
  cases hjob
  by_cases hc : lease.jobId = X ∧ taken.userId = U
  · -- the taken job is job `X` of user `U`: its processing settles it
    obtain ⟨rfl, rfl⟩ := hc
    have hstart : (w.pollView.record (.jobTransition taken.jobId (some .queued) .processing)).Follows
        lease.jobId taken.userId u₁.pollView := hu₁ ▸ hfollows₁.record _
    have hkeyed₁ : ∀ c, u₁.store.histories.get? taken.userId = some c → c.userId = taken.userId :=
      fun c hc => hkeyed c (hstart.history ▸ hc)
    obtain ⟨⟨hid, hfiledj, t₀, token, ht₀, hle, hsettles⟩, htrans⟩ :=
      Worker.triple_process hstep _ u₁ taken lease hkeyed₁ u₁ u _ (PollView.Follows.refl _)
        hprocess job rfl
    have hsame : (job.jobId, job.userId, job.message) = (lease.jobId, taken.userId, taken.message) :=
      List.mem_singleton.mp (hfiled₁ hlease.symm _ hfiledj hid)
    have hreq : job.request = taken.request := by
      funext history token
      simp only [Prod.mk.injEq] at hsame
      simp only [Job.request, hsame.2.2, hsame.1, hlease]
    have hrec₁ : u₁.recording = true := hstart.recording.trans hrecording
    refine ⟨t₀, token, le_trans hstart.clock ht₀, hle, ?_, ?_⟩
    · rw [hreq, ← Store.seen_congr hstart.history hstart.config hstart.backend t₀]
      exact hsettles.congr hstart.history.symm hstart.config.symm hstart.backend.symm rfl rfl rfl
        (le_refl _)
    · rw [htrans, hrec₁, ← World.pollView_transitionsOf u₁, hstart.transitions,
        PollView.transitionsOf_record, World.pollView_transitionsOf]
      simp [World.pollView, hrecording, hlease, RuntimeEvent.transitionOf?]
  · -- otherwise the poll cannot have answered job `X` of user `U`
    obtain ⟨hsettled, -⟩ :=
      ((Worker.keeps_process_filed hstep _ X u₁.pollView.filing taken lease).triple
        fun _ _ hu hR => hu.follows hR) u₁ u _ (fun _ he _ => he) hprocess
    obtain ⟨hid, hfiledj⟩ := hsettled job rfl
    have hsame := List.mem_singleton.mp
      (hfiled₁ (hlease.symm.trans (hid.symm.trans hX)) _ (hfiledj hX) hX)
    simp only [Prod.mk.injEq] at hsame
    exact absurd ⟨hid.symm.trans hX, hsame.2.1.symm.trans hU⟩ hc

/-- A worker whose agent refuses every request as cancelled, touching nothing. -/
def quietWorker : Worker :=
  ⟨"worker-1", ⟨fun _ => .pure (.error .cancelled), 1, ⟨0⟩⟩, []⟩

/-- A world that keeps events, with one queued job of `ada`'s, `job-1`. -/
def oneJobWorld : World :=
  { (default : World) with
    recording := true
    store := { (default : World).store with
      jobs := (({} : JobTable).exec {} .memory ⟨0⟩
        (.enqueue { userId := "ada", message := "hello" })).2 } }

theorem quiet_poll_settles_job :
    Triple (World.LeavesJob "job-1" "ada") (· = oneJobWorld) quietWorker.pollOnce fun r w' =>
      ∀ job, r = .ok (some job) → job.jobId = "job-1" → job.userId = "ada" →
      ∃ t₀ token, oneJobWorld.now.sinceEpoch ≤ t₀.sinceEpoch ∧
        t₀.sinceEpoch ≤ w'.now.sinceEpoch ∧
        quietWorker.Settles (job.request (oneJobWorld.store.seen t₀ "ada") token) "ada"
          oneJobWorld.store w'.store t₀ w'.now job ∧
        w'.transitionsOf "job-1" = oneJobWorld.transitionsOf "job-1" ++
          [.jobTransition "job-1" (some .queued) .processing,
            .jobTransition "job-1" (some .processing) job.status] :=
  Worker.poll_settles_job (fun _ _ => keeps_pure trivial) oneJobWorld "job-1" "ada" rfl
    fun _ h => nomatch h

end ResilientAgent
