import ResilientAgent.Proofs.Jobs.Fields
import ResilientAgent.Proofs.Store.Calls
import ResilientAgent.Proofs.Store.Millis

/-!
# A store in a database answers as one in memory

A database keeps every instant of the queue and the conversations in whole milliseconds,
compares retention and time to live by a cutoff in whole milliseconds, reports a refused lease by
what it finds after the fact, and keeps breaker records exactly. Where the clock reads
representable whole milliseconds, the durations it compares by are whole milliseconds and every
deadline a call makes, or is given, is a representable whole millisecond, a store in a database
answers every call as the same store in memory, and the two keep the same records
(`database_store_mirrors_memory`).

The one difference left is a lease refused for two reasons at once: memory names the user who
has a job in progress and a database the job that is not queued (`SameOutcome.leaseRefused`).
A deadline past the last representable instant is a second one: memory keeps the last
nanosecond and a database the last millisecond (`database_store_parts_from_memory`).

The proof is a simulation. Each job-table operation agrees across the backends given whole
milliseconds (`JobTable.exec_database`); a store that keeps only whole milliseconds
(`Store.WholeMillis`) answers each call alike on both and stays such a store
(`Store.exec_database`, `Store.WholeMillis.exec`); induction on the calls gives the run.
-/

namespace ResilientAgent

/-- Two outcomes that agree: the same outcome, or a lease refused for two reasons at once, which
memory reports by the user who has a job in progress and a database by the job's status. -/
inductive SameOutcome {α : Type} : Except AgentError α → Except AgentError α → Prop
  | same (r : Except AgentError α) : SameOutcome r r
  | leaseRefused (jobId userId : String) (status : JobStatus) (hstatus : status ≠ .queued) :
      SameOutcome (.error (JobTable.userBusy userId)) (.error (JobTable.notQueued jobId status))

namespace SameOutcome

variable {α β : Type} {r r' : Except AgentError α}

theorem map (f : α → β) (h : SameOutcome r r') : SameOutcome (r.map f) (r'.map f) := by
  cases h with
  | same => exact .same _
  | leaseRefused jobId userId status hstatus => exact .leaseRefused jobId userId status hstatus

theorem eq_or_invalidRequest (h : SameOutcome r r') :
    r = r' ∨ ∃ m m', r = .error (.invalidRequest m) ∧ r' = .error (.invalidRequest m') := by
  cases h with
  | same => exact .inl rfl
  | leaseRefused => exact .inr ⟨_, _, rfl, rfl⟩

theorem commit {t : JobTable} {answer : α → QueueAnswer}
    {r r' : Except AgentError (α × JobTable)} (h : SameOutcome r r') :
    SameOutcome (t.commit answer r).1 (t.commit answer r').1 ∧
      (t.commit answer r').2 = (t.commit answer r).2 := by
  cases h with
  | same => exact ⟨.same _, rfl⟩
  | leaseRefused jobId userId status hstatus =>
    exact ⟨.leaseRefused jobId userId status hstatus, rfl⟩

end SameOutcome

/-- A job that ended, if it did, on a representable whole millisecond. -/
def Job.EndsOnMillis (j : Job) : Prop := ∀ at_, j.completedAt = some at_ → at_.WholeMillis

variable {config : QueueConfig} {now : Instant}

theorem Job.expired_database {j : Job} (hend : j.EndsOnMillis) (hnow : now.WholeMillis)
    (hret : config.retention.WholeMillis) (hfit : now.CutoffFits config.retention) :
    j.expired config .database now = j.expired config .memory now := by
  unfold Job.expired
  cases hat : j.completedAt with
  | none => rfl
  | some at_ => simp only [Instant.add_le_iff_cutoff (hend at_ hat) hnow hret hfit]

theorem Job.reaped_completedAt (config : QueueConfig) (now : Instant) (j : Job) :
    (j.reaped config now).completedAt = j.completedAt ∨
      (j.reaped config now).completedAt = some now := by
  unfold Job.reaped
  split_ifs
  · exact .inl rfl
  · exact .inl rfl
  · exact .inr rfl

theorem JobMove.endsOnMillis {b : Backend} {c : QueueCall} {j j' : Job} (hnow : now.WholeMillis)
    (hmove : JobMove config b now c j j') (hj : j.EndsOnMillis) : j'.EndsOnMillis := by
  have hstamped : ∀ at_, some (b.stamp now) = some at_ → at_.WholeMillis := by
    intro at_ hat
    rw [← Option.some.inj hat, Backend.stamp_of_wholeMillis b hnow]
    exact hnow
  cases hmove with
  | keep | dequeue _ | lease _ | renew _ => exact hj
  | complete _ | fail _ => exact hstamped
  | reap =>
    intro at_ hat
    rcases Job.reaped_completedAt config (b.stamp now) j with hsame | hended
    · exact hj at_ (hsame ▸ hat)
    · exact hstamped at_ (hended ▸ hat)

/-- What a queue call needs to stay within a database's ranges: a lease it grants or renews ends
at a representable whole millisecond, and a purge's cutoff does not wrap. -/
def QueueCall.InRange (config : QueueConfig) (now : Instant) : QueueCall → Prop
  | .dequeue _ _ => now.DeadlineFits config.leaseTtl
  | .lease _ _ ttl => now.DeadlineFits ttl
  | .renew l => now.DeadlineFits l.ttl
  | .purge => now.CutoffFits config.retention
  | .enqueue _ | .get _ | .complete _ _ | .fail _ _ | .reap | .depth => True

instance QueueCall.decidableInRange (config : QueueConfig) (now : Instant) :
    (c : QueueCall) → Decidable (c.InRange config now)
  | .dequeue _ _ => inferInstanceAs (Decidable (now.DeadlineFits config.leaseTtl))
  | .lease _ _ ttl => inferInstanceAs (Decidable (now.DeadlineFits ttl))
  | .renew l => inferInstanceAs (Decidable (now.DeadlineFits l.ttl))
  | .purge => inferInstanceAs (Decidable (now.CutoffFits config.retention))
  | .enqueue _ | .get _ | .complete _ _ | .fail _ _ | .reap | .depth => isTrue trivial

namespace JobTable

variable {t : JobTable}

theorem sameOutcome_of_eq {p p' : Except AgentError QueueAnswer × JobTable} (h : p' = p) :
    SameOutcome p.1 p'.1 ∧ p'.2 = p.2 :=
  h ▸ ⟨.same _, rfl⟩

section agree

variable (hnow : now.WholeMillis)
include hnow

theorem enqueue_database (new : NewJob) :
    t.enqueue config .database now new = t.enqueue config .memory now new := by
  simp only [enqueue, Backend.stamp_of_wholeMillis _ hnow]

theorem grant_database {ttl : Duration} (hfit : now.DeadlineFits ttl) (j : Job) (w : String) :
    grant j .database w ttl now = grant j .memory w ttl now := by
  have hdeadline := Instant.WholeMillis.add hnow hfit
  simp only [grant, Backend.stamp_of_wholeMillis _ hnow, Backend.stamp_of_wholeMillis _ hdeadline]

theorem dequeue_database (hfit : now.DeadlineFits config.leaseTtl) (ps : List Priority)
    (w : String) : t.dequeue config .database now ps w = t.dequeue config .memory now ps w := by
  simp only [dequeue, grant_database hnow hfit]

theorem lease_database {ttl : Duration} (hfit : now.DeadlineFits ttl) (X w : String) :
    SameOutcome (t.lease config .memory now X w ttl) (t.lease config .database now X w ttl) := by
  unfold lease
  cases hfound : t.find? X with
  | none => exact .same _
  | some j =>
    simp only [grant_database hnow hfit]
    by_cases hbusy : config.serializePerUser = true ∧ j.userId ∈ t.busyUsers <;>
      by_cases hqueued : j.status = .queued
    · simp [hbusy, hqueued, throw, throwThe, MonadExceptOf.throw, bind, Except.bind]
      exact .same _
    · -- refused for both reasons: each backend names the one it looks at first
      simp [hbusy, hqueued, throw, throwThe, MonadExceptOf.throw, bind, Except.bind]
      exact .leaseRefused X j.userId j.status hqueued
    · simp [hbusy, hqueued]
      exact .same _
    · simp [hbusy, hqueued, throw, throwThe, MonadExceptOf.throw, bind, Except.bind]
      exact .same _

theorem renew_database {l : Lease} (hfit : now.DeadlineFits l.ttl) :
    t.renew .database now l = t.renew .memory now l := by
  have hdeadline := Instant.WholeMillis.add hnow hfit
  simp only [renew, Backend.stamp_of_wholeMillis _ hnow, Backend.stamp_of_wholeMillis _ hdeadline]

theorem settle_database {l : Lease}
    (hopen : ∀ j, t.find? l.jobId = some j → j.holds l = true → j.result = none ∧ j.error = none)
    (status : JobStatus) (result : Option JobResult) (error : Option JobFailure) :
    t.settle .database now l status result error = t.settle .memory now l status result error := by
  unfold settle
  cases hfound : t.find? l.jobId with
  | none => rfl
  | some j =>
    by_cases hholds : j.holds l = true
    · obtain ⟨hresult, herror⟩ := hopen j hfound hholds
      simp only [hholds, if_true, Backend.stamp_of_wholeMillis _ hnow, hresult, herror]
      cases result <;> cases error <;> rfl
    · simp only [hholds, Bool.false_eq_true, if_false]

theorem reap_database : t.reap config .database now = t.reap config .memory now := by
  simp only [reap, Backend.stamp_of_wholeMillis _ hnow]

theorem purge_database (hret : config.retention.WholeMillis)
    (hfit : now.CutoffFits config.retention) (hends : ∀ s ∈ t.slots, s.job.EndsOnMillis) :
    t.purge config .database now = t.purge config .memory now := by
  have hkept : t.slots.filter (fun s => !s.expired config .database now) =
      t.slots.filter (fun s => !s.expired config .memory now) :=
    List.filter_congr fun s hs => by
      rw [Slot.expired_eq, Slot.expired_eq, Job.expired_database (hends s hs) hnow hret hfit]
  simp only [purge, hkept]

/-- Every queue call agrees across the backends: the same outcome, or a lease refused for both
reasons, and the same table after it. -/
theorem exec_database (hret : config.retention.WholeMillis)
    (hfits : ∀ X j, t.find? X = some j → j.FitsStatus config)
    (hends : ∀ s ∈ t.slots, s.job.EndsOnMillis) {c : QueueCall}
    (hfit : c.InRange config now) :
    SameOutcome (t.exec config .memory now c).1 (t.exec config .database now c).1 ∧
      (t.exec config .database now c).2 = (t.exec config .memory now c).2 := by
  have hopen : ∀ l : Lease, ∀ j, t.find? l.jobId = some j → j.holds l = true →
      j.result = none ∧ j.error = none :=
    fun _ j hj hholds => Job.outcome_none_of_holds (hfits _ j hj) hholds
  cases c with
  | lease X w ttl => exact (lease_database hnow hfit X w).commit
  | enqueue new => exact sameOutcome_of_eq (by simp only [exec, enqueue_database hnow])
  | dequeue ps w => exact sameOutcome_of_eq (by simp only [exec, dequeue_database hnow hfit])
  | renew l => exact sameOutcome_of_eq (by simp only [exec, renew_database hnow hfit])
  | complete l r =>
    exact sameOutcome_of_eq (by simp only [exec, complete, settle_database hnow (hopen l)])
  | fail l f => exact sameOutcome_of_eq (by simp only [exec, fail, settle_database hnow (hopen l)])
  | reap => exact sameOutcome_of_eq (by simp only [exec, reap_database hnow])
  | purge => exact sameOutcome_of_eq (by simp only [exec, purge_database hnow hret hfit hends])
  | get | depth => exact sameOutcome_of_eq rfl

end agree

theorem endsOnMillis_exec {b : Backend} (hw : t.WellNumbered)
    (hends : ∀ s ∈ t.slots, s.job.EndsOnMillis) (hnow : now.WholeMillis) (c : QueueCall) :
    ∀ s ∈ (t.exec config b now c).2.slots, s.job.EndsOnMillis := by
  intro s hs
  rcases find?_exec_eq_some hw (find?_of_mem (hw.exec c).1.nodup hs) with
    ⟨j, hj, hmove⟩ | ⟨new, -, -, hfresh⟩
  · obtain ⟨old, hold, rfl⟩ := mem_of_find? hj
    exact hmove.endsOnMillis hnow (hends old hold)
  · -- a fresh submission has not ended
    intro at_ hat
    simp [hfresh, NewJob.toJob] at hat

end JobTable

/-- What a store call needs to stay within a database's ranges: a queue call stays in range, a
result is remembered until a representable whole millisecond, and a purge of histories has a
cutoff that does not wrap. -/
def StoreCall.InRange (queueConfig : QueueConfig) (conversationConfig : ConversationConfig)
    (now : Instant) : StoreCall → Prop
  | .queue c => c.InRange queueConfig now
  | .remember _ _ expiresAt => expiresAt.WholeMillis
  | .purgeHistories => now.CutoffFits conversationConfig.ttl
  | .load _ | .save _ | .clear _ | .remembered _ | .purgeMemos | .updateBreaker _ _ | .breaker _ =>
    True

instance StoreCall.decidableInRange (queueConfig : QueueConfig)
    (conversationConfig : ConversationConfig) (now : Instant) :
    (c : StoreCall) → Decidable (c.InRange queueConfig conversationConfig now)
  | .queue c => inferInstanceAs (Decidable (c.InRange queueConfig now))
  | .remember _ _ expiresAt => inferInstanceAs (Decidable expiresAt.WholeMillis)
  | .purgeHistories => inferInstanceAs (Decidable (now.CutoffFits conversationConfig.ttl))
  | .load _ | .save _ | .clear _ | .remembered _ | .purgeMemos | .updateBreaker _ _ | .breaker _ =>
    isTrue trivial

namespace Store

/-- A store that a database keeps exactly: it is open, its table is one the queue reaches, and
every instant it compares, and every duration it compares them by, is a whole millisecond. -/
structure WholeMillis (s : Store) : Prop where
  isOpen : s.closed = false
  jobsReachable : s.jobs.Reachable s.queueConfig s.backend
  jobsEnd : ∀ sl ∈ s.jobs.slots, sl.job.EndsOnMillis
  historiesSaved : ∀ e ∈ s.histories, e.2.updatedAt.WholeMillis
  retention : s.queueConfig.retention.WholeMillis
  historyTtl : s.conversationConfig.ttl.WholeMillis

variable {s : Store} {now : Instant}

theorem WholeMillis.wellNumbered (hs : s.WholeMillis) : s.jobs.WellNumbered :=
  hs.jobsReachable.wellNumbered

/-- A call made at a whole millisecond leaves a store that a database keeps exactly. -/
theorem WholeMillis.exec (hs : s.WholeMillis) (hnow : now.WholeMillis) (c : StoreCall) :
    (s.exec now c).2.WholeMillis := by
  obtain ⟨breakers, memos, jobs, histories, hstore, hjobs, hhistories⟩ :=
    @exec_records s now (available_of_closed_false hs.isOpen) c
  have htable : jobs.Reachable s.queueConfig s.backend ∧ ∀ sl ∈ jobs.slots, sl.job.EndsOnMillis := by
    rcases hjobs with rfl | ⟨qc, rfl⟩
    · exact ⟨hs.jobsReachable, hs.jobsEnd⟩
    · exact ⟨hs.jobsReachable.exec now qc,
        JobTable.endsOnMillis_exec hs.wellNumbered hs.jobsEnd hnow qc⟩
  have hsaved : ∀ e ∈ histories, e.2.updatedAt.WholeMillis := by
    intro e he
    rcases hhistories e he with hold | hnew
    · exact hs.historiesSaved e hold
    · rw [hnew, stamp, Backend.stamp_of_wholeMillis _ hnow]
      exact hnow
  rw [hstore]
  exact ⟨hs.isOpen, htable.1, htable.2, hsaved, hs.retention, hs.historyTtl⟩

theorem stale_database (hmem : s.backend = .memory) {h : ConversationState}
    (hsaved : h.updatedAt.WholeMillis) (hnow : now.WholeMillis)
    (httl : s.conversationConfig.ttl.WholeMillis) (hfit : now.CutoffFits s.conversationConfig.ttl) :
    (s.onBackend .database).stale now h = s.stale now h := by
  simp only [stale, onBackend_backend, onBackend_conversationConfig, hmem,
    ConversationState.isExpired]
  exact decide_eq_decide.2 (Instant.add_le_iff_cutoff hsaved hnow httl hfit).symm

theorem exec_database_of_records (hs : s.WholeMillis) (hmem : s.backend = .memory)
    (hnow : now.WholeMillis) {c : StoreCall}
    (hfit : c.InRange s.queueConfig s.conversationConfig now) (hc : ∀ qc, c ≠ .queue qc) :
    (s.onBackend .database).exec now c =
      ((s.exec now c).1, (s.exec now c).2.onBackend .database) := by
  have hav : s.available = .ok () := available_of_closed_false hs.isOpen
  have hav' : (s.onBackend .database).available = .ok () := available_of_closed_false hs.isOpen
  have hstamp : (s.onBackend .database).stamp now = now := Backend.stamp_of_wholeMillis _ hnow
  have hstamp' : s.stamp now = now := Backend.stamp_of_wholeMillis _ hnow
  cases c with
  | queue qc => exact absurd rfl (hc qc)
  | load userId =>
    simp only [exec, load, hav, hav', hstamp, hstamp', onBackend_histories,
      onBackend_conversationConfig, bind, Except.bind, pure, Except.pure]
    cases s.histories.get? userId with
    | none => rfl
    | some saved =>
      by_cases hexpired : saved.isExpired s.conversationConfig.ttl now = true
      · simp only [hexpired, if_true]
        rfl
      · simp only [hexpired]
        rfl
  | save saved =>
    simp only [exec, save, hav, hav', hstamp, hstamp', onBackend_conversationConfig, bind,
      Except.bind, pure, Except.pure]
    rfl
  | clear userId =>
    simp only [exec, clear, hav, hav', bind, Except.bind, pure, Except.pure, Except.map]
    rfl
  | purgeHistories =>
    have hkept : (s.histories.filter fun e => !(s.onBackend .database).stale now e.2) =
        s.histories.filter fun e => !s.stale now e.2 :=
      List.filter_congr fun e he => by
        rw [stale_database hmem (hs.historiesSaved e he) hnow hs.historyTtl hfit]
    simp only [exec, purgeHistories, hav, hav', onBackend_histories, hkept, bind, Except.bind,
      pure, Except.pure]
    rfl
  | remembered key =>
    simp only [exec, remembered, hav, hav', hstamp, hstamp', onBackend_memos, bind, Except.bind,
      pure, Except.pure]
  | remember key value expiresAt =>
    have hkept : (s.onBackend .database).stamp expiresAt = s.stamp expiresAt := by
      rw [stamp, stamp, Backend.stamp_of_wholeMillis _ hfit, Backend.stamp_of_wholeMillis _ hfit]
    simp only [exec, remember, hav, hav', hkept, bind, Except.bind, pure, Except.pure, Except.map]
    rfl
  | purgeMemos =>
    simp only [exec, purgeMemos, hav, hav', hstamp, hstamp', onBackend_memos, bind, Except.bind,
      pure, Except.pure]
    rfl
  | updateBreaker name f =>
    simp only [exec, updateBreaker, hav, hav', onBackend_breakers, bind, Except.bind, pure,
      Except.pure]
    rfl
  | breaker name =>
    simp only [exec, breaker?, hav, hav', onBackend_breakers, bind, Except.bind, pure, Except.pure]

/-- One call on a store that a database keeps exactly: the database answers as memory does, but
for a lease refused for both reasons, and keeps the same records. -/
theorem exec_database (hs : s.WholeMillis) (hmem : s.backend = .memory) (hnow : now.WholeMillis)
    {c : StoreCall} (hfit : c.InRange s.queueConfig s.conversationConfig now) :
    SameOutcome (s.exec now c).1 ((s.onBackend .database).exec now c).1 ∧
      ((s.onBackend .database).exec now c).2 = (s.exec now c).2.onBackend .database := by
  cases c with
  | queue qc =>
    have hav : s.available = .ok () := available_of_closed_false hs.isOpen
    have hav' : (s.onBackend .database).available = .ok () := available_of_closed_false hs.isOpen
    have hfits X j (hj : s.jobs.find? X = some j) := (hs.jobsReachable.fitsStatus X j hj).1
    obtain ⟨hout, htable⟩ := JobTable.exec_database hnow hs.retention hfits hs.jobsEnd hfit
    simp only [exec, execQueue_of_available hav, execQueue_of_available hav', onBackend_jobs,
      onBackend_queueConfig, onBackend_backend, hmem, liftQueue, htable]
    exact ⟨hout.map _, rfl⟩
  | _ =>
    rw [exec_database_of_records hs hmem hnow hfit (by simp)]
    exact ⟨.same _, rfl⟩

theorem run_database (hs : s.WholeMillis) (hmem : s.backend = .memory)
    (calls : List (StoreCall × Instant))
    (hcalls : ∀ call ∈ calls,
      call.2.WholeMillis ∧ call.1.InRange s.queueConfig s.conversationConfig call.2) :
    List.Forall₂ SameOutcome (s.run calls).1 ((s.onBackend .database).run calls).1 ∧
      ((s.onBackend .database).run calls).2 = (s.run calls).2.onBackend .database := by
  induction calls generalizing s with
  | nil => exact ⟨.nil, rfl⟩
  | cons call calls ih =>
    obtain ⟨c, now⟩ := call
    obtain ⟨hnow, hfit⟩ := hcalls (c, now) List.mem_cons_self
    obtain ⟨hout, hstore⟩ := exec_database hs hmem hnow hfit
    obtain ⟨_, _, _, _, hrecords, -, -⟩ :=
      @exec_records s now (available_of_closed_false hs.isOpen) c
    have hmem' : (s.exec now c).2.backend = .memory := by rw [hrecords]; exact hmem
    have hconfig : (s.exec now c).2.queueConfig = s.queueConfig := by rw [hrecords]
    have hconfig' : (s.exec now c).2.conversationConfig = s.conversationConfig := by rw [hrecords]
    have hrest := ih (hs.exec hnow c) hmem' fun call hcall => by
      rw [hconfig, hconfig']
      exact hcalls call (List.mem_cons_of_mem _ hcall)
    simp only [run, hstore]
    exact ⟨.cons hout hrest.1, hrest.2⟩

end Store

/-- A job's round at whole seconds: submitted and leased at the scripted epoch, sent back to the
queue by a reaper's pass after its lease lapsed, and a history saved and then purged past its
time to live. -/
def lapsedLeaseRound : List (StoreCall × Instant) :=
  let t0 := Instant.scriptEpoch
  [(.queue (.enqueue { userId := "u", message := "m" }), t0),
   (.queue (.dequeue [] "w1"), t0),
   (.queue .reap, t0.addMillis 200000),
   (.save ⟨"u", [], t0⟩, t0),
   (.purgeHistories, t0.addMillis 7200000)]

/-- A user's job leased to one worker, then asked for by name by a second worker. -/
def leaseOfBusyJob : List (StoreCall × Instant) :=
  [(.queue (.enqueue { userId := "u", message := "m" }), Instant.scriptEpoch),
   (.queue (.dequeue [] "w1"), Instant.scriptEpoch),
   (.queue (.lease (jobLabel 1) "w2" (Duration.ofMillis 1000)), Instant.scriptEpoch)]

/-- A job leased for ten million billion seconds, past the last representable instant. -/
def leasePastRange : List (StoreCall × Instant) :=
  [(.queue (.enqueue { userId := "u", message := "m" }), Instant.scriptEpoch),
   (.queue (.lease (jobLabel 1) "w" (Duration.ofSecs 10000000000000000)), Instant.scriptEpoch)]

/-- A second before the epoch: a job submitted, taken, completed and purged, then a history saved
and purged. -/
def purgeBeforeEpoch : List (StoreCall × Instant) :=
  let t : Instant := ⟨-1000000000⟩
  [(.queue (.enqueue { userId := "u", message := "m" }), t),
   (.queue (.dequeue [] "w"), t),
   (.queue (.complete ⟨jobLabel 1, "w", 1, t, Duration.ofSecs 150⟩ default), t),
   (.queue .purge, t),
   (.save ⟨"u", [], t⟩, t),
   (.purgeHistories, t)]

/-- A store keeping finished jobs and histories for ten million billion seconds. -/
def longRetentionStore : Store :=
  { queueConfig := { retention := Duration.ofSecs 10000000000000000 }
    conversationConfig := { ttl := Duration.ofSecs 10000000000000000 } }

end ResilientAgent
