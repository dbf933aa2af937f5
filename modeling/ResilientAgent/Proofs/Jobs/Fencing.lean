import ResilientAgent.Proofs.Jobs.Progress

/-!
# Lease fencing

A lease names a job and one delivery of it. Renewing, completing or failing under a lease
succeeds exactly when the job is stored, in progress, held by the lease's worker and in the
lease's delivery (`honours_iff`); otherwise the call fails and leaves the table as it was.

A lease is handed out at the start of its delivery, by a grant, or again by a renewal; the job is
then exactly at the lease's delivery, in progress (`Lease.progress`). No call moves a job
backwards (`JobMove.progress`), so from then on the job is never behind that point (`Issued`).
A call that changes the job's delivery count or status moves it strictly past that point, and a
purge drops it; either way the lease is revoked (`Revoked`), revocation survives every later call,
and a revoked lease is refused: a stale holder can neither extend nor settle the job, whatever
other workers, the reaper and the clock do in between.
-/

namespace ResilientAgent

/-- Where a lease's job stands while the lease is live: at the lease's delivery, in progress. -/
def Lease.progress (l : Lease) : Nat ×ₗ Nat := toLex (l.attempt, JobStatus.processing.stage)

theorem Job.progress_of_holds {j : Job} {l : Lease} (h : j.holds l = true) :
    j.progress = l.progress := by
  obtain ⟨hproc, -, hattempt⟩ := (Job.holds_iff _ _).mp h
  simp [Job.progress, Lease.progress, hproc, hattempt]

namespace JobTable

/-- The table refuses every renewal, completion and failure under the lease at `now`, with the
lease lost while its job is stored and with the job not found once it is gone. -/
def Refuses (t : JobTable) (b : Backend) (now : Instant) (l : Lease) : Prop :=
  t.renew b now l = .error (t.lostOrMissing l) ∧
    ∀ (r : JobResult) (f : JobFailure), t.complete b now l r = .error (t.lostOrMissing l) ∧
      t.fail b now l f = .error (t.lostOrMissing l)

/-- A lease the table handed out: its job was submitted, and while stored it is not behind the
lease's delivery. -/
def Issued (t : JobTable) (l : Lease) : Prop :=
  t.Labelled l.jobId ∧ ∀ j, t.find? l.jobId = some j → l.progress ≤ j.progress

/-- A lease whose delivery is over: its job was submitted, and is gone or past the lease's
delivery. -/
def Revoked (t : JobTable) (l : Lease) : Prop :=
  t.Labelled l.jobId ∧ ∀ j, t.find? l.jobId = some j → l.progress < j.progress

variable {config : QueueConfig} {b : Backend} {now : Instant} {t : JobTable} {L : Lease}

theorem honours_iff :
    t.Honours L ↔ ∃ j, t.find? L.jobId = some j ∧ j.status = .processing ∧
      j.leaseOwner = some L.workerId ∧ j.attempts = L.attempt := by
  simp only [Honours, Job.holds_iff]

/-! ### Issued and revoked leases stay so -/

theorem Issued.exec (hw : t.WellNumbered) (hi : t.Issued L) (c : QueueCall) :
    (t.exec config b now c).2.Issued L :=
  ⟨hi.1.exec hw c,
    exec_find?_of_labelled hw hi.1 (fun hmove hle => hle.trans hmove.progress_le) hi.2⟩

theorem Revoked.exec (hw : t.WellNumbered) (hr : t.Revoked L) (c : QueueCall) :
    (t.exec config b now c).2.Revoked L :=
  ⟨hr.1.exec hw c,
    exec_find?_of_labelled hw hr.1 (fun hmove hlt => hlt.trans_le hmove.progress_le) hr.2⟩

theorem Issued.run (hw : t.WellNumbered) (hi : t.Issued L) (calls : List (QueueCall × Instant)) :
    (t.run config b calls).Issued L :=
  run_of_exec (Issued · L) (fun hw hi => Issued.exec hw hi _) calls hw hi

theorem Revoked.run (hw : t.WellNumbered) (hr : t.Revoked L) (calls : List (QueueCall × Instant)) :
    (t.run config b calls).Revoked L :=
  run_of_exec (Revoked · L) (fun hw hr => Revoked.exec hw hr _) calls hw hr

theorem Revoked.not_honours (hr : t.Revoked L) : ¬ t.Honours L := by
  rintro ⟨j, hfound, hholds⟩
  have hpast := hr.2 j hfound
  rw [Job.progress_of_holds hholds] at hpast
  exact lt_irrefl _ hpast

theorem Revoked.refuses (hr : t.Revoked L) (now : Instant) : t.Refuses b now L :=
  ⟨renew_eq_error hr.not_honours, fun _ _ =>
    ⟨settle_eq_error hr.not_honours, settle_eq_error hr.not_honours⟩⟩

/-! ### Handing out a lease -/

private theorem commit_ok {α : Type} {answer : α → QueueAnswer}
    {r : Except AgentError (α × JobTable)} {a : QueueAnswer} (h : (t.commit answer r).1 = .ok a) :
    ∃ x t', r = .ok (x, t') ∧ a = answer x := by
  rcases r with e | ⟨x, t'⟩
  · simp [commit] at h
  · simp only [commit, Except.ok.injEq] at h
    exact ⟨x, t', rfl, h.symm⟩

private theorem issued_of_grant {j : Job} (hX : t.Labelled j.jobId) (w : String)
    (ttl : Duration) :
    (t.update j.jobId fun _ => (grant j b w ttl now).1).Issued (grant j b w ttl now).2 := by
  refine ⟨hX, fun j' hj' => ?_⟩
  rw [show (grant j b w ttl now).2.jobId = j.jobId from rfl, find?_update_self] at hj'
  · obtain ⟨_, -, rfl⟩ := Option.map_eq_some_iff.mp hj'
    exact le_rfl
  · intro _ _
    rfl

theorem issued_of_lease? (hw : t.WellNumbered) {c : QueueCall} {a : QueueAnswer}
    (hok : (t.exec config b now c).1 = .ok a) (hL : a.lease? = some L) :
    (t.exec config b now c).2.Issued L := by
  cases c with
  | dequeue ps w =>
    simp only [exec, Except.ok.injEq] at hok
    subst hok
    rcases dequeue_cases t config b now ps w with hnone | ⟨s, hs, -, -, hdeq⟩
    · simp [hnone, QueueAnswer.lease?] at hL
    · simp only [exec, hdeq, QueueAnswer.lease?, Option.some.injEq] at hL ⊢
      subst hL
      have hfound := find?_of_mem hw.nodup hs
      exact issued_of_grant (labelled_of_find? hw hfound) w _
  | lease X w ttl =>
    obtain ⟨L', t', hlease, rfl⟩ := commit_ok hok
    simp only [QueueAnswer.lease?, Option.some.injEq] at hL
    subst hL
    obtain ⟨j, hfound, -, -, rfl, rfl⟩ := lease_eq_ok hlease
    simp only [exec, commit, hlease]
    obtain rfl := jobId_of_find? hfound
    exact issued_of_grant (labelled_of_find? hw hfound) w ttl
  | renew l =>
    obtain ⟨L', t', hrenew, rfl⟩ := commit_ok hok
    simp only [QueueAnswer.lease?, Option.some.injEq] at hL
    subst hL
    obtain ⟨j, hfound, hholds, rfl, rfl⟩ := renew_eq_ok hrenew
    simp only [exec, commit, hrenew]
    refine ⟨labelled_of_find? hw hfound, fun j' hj' => ?_⟩
    rw [find?_update_self, hfound] at hj'
    · obtain rfl := Option.some.inj hj'
      exact (Job.progress_of_holds hholds).symm.le
    · intro _ hid
      exact hid
  | enqueue | complete | fail =>
    obtain ⟨_, _, -, rfl⟩ := commit_ok hok
    simp [QueueAnswer.lease?] at hL
  | get | reap | purge | depth =>
    simp only [exec, Except.ok.injEq] at hok
    subst hok
    simp [QueueAnswer.lease?] at hL

/-! ### A change to the job revokes its leases -/

/-- The call changed the job under `X`: it dropped it, or changed its delivery count or status. -/
def Changes (t t' : JobTable) (X : String) : Prop :=
  t'.find? X = none ∨
    ∃ j j', t.find? X = some j ∧ t'.find? X = some j' ∧
      (j'.attempts ≠ j.attempts ∨ j'.status ≠ j.status)

theorem Issued.revoked (hw : t.WellNumbered) (hi : t.Issued L) {c : QueueCall}
    (hchange : t.Changes (t.exec config b now c).2 L.jobId) :
    (t.exec config b now c).2.Revoked L := by
  refine ⟨hi.1.exec hw c, fun j' hj' => ?_⟩
  rcases hchange with hgone | ⟨j, j'', hj, hj'', hdiff⟩
  · rw [hgone] at hj'
    cases hj'
  · rw [hj''] at hj'
    obtain rfl := Option.some.inj hj'
    exact (hi.2 j hj).trans_lt ((jobMove_of_find? hw hj hj'').progress_lt hdiff)

end JobTable

open JobTable in
/-- Leases fence their holders. Renewing, completing or failing under a lease succeeds exactly
when its job is stored, in progress, held by the lease's worker and in the lease's delivery. A
lease that a call of a reachable table hands out is refused for good, after any calls at any
instants, once a call drops its job or changes its delivery count or status, as a later grant,
the reaper, a settlement and a purge do. A call that fails leaves the table as it was. -/
theorem lease_fencing (config : QueueConfig) (b : Backend) :
    (∀ (t : JobTable) (now : Instant) (L : Lease) (r : JobResult) (f : JobFailure),
      let held := ∃ j, t.find? L.jobId = some j ∧ j.status = .processing ∧
        j.leaseOwner = some L.workerId ∧ j.attempts = L.attempt
      ((∃ a, t.renew b now L = .ok a) ↔ held) ∧ ((∃ a, t.complete b now L r = .ok a) ↔ held) ∧
        ((∃ a, t.fail b now L f = .ok a) ↔ held)) ∧
    (∀ (t : JobTable) (now : Instant) (c : QueueCall) (a : QueueAnswer) (L : Lease),
      Reachable config b t → (t.exec config b now c).1 = .ok a → a.lease? = some L →
      ∀ (before : List (QueueCall × Instant)) (at_ : Instant) (c' : QueueCall)
        (after : List (QueueCall × Instant)) (now' : Instant),
        let u := (t.exec config b now c).2.run config b before
        u.Changes (u.exec config b at_ c').2 L.jobId →
        ((u.exec config b at_ c').2.run config b after).Refuses b now' L) ∧
    (∀ (t : JobTable) (now : Instant) (c : QueueCall) (e : AgentError),
      (t.exec config b now c).1 = .error e → (t.exec config b now c).2 = t) := by
  refine ⟨fun t now L r f => ⟨?_, ?_, ?_⟩, ?_, fun t now c e h => exec_error h⟩
  · rw [renew_ok_iff, honours_iff]
  · rw [complete, settle_ok_iff, honours_iff]
  · rw [fail, settle_ok_iff, honours_iff]
  · intro t now c a L ht hok hL before at_ c' after now' u hchange
    have hw := ht.wellNumbered
    have hissued : u.Issued L := (issued_of_lease? hw hok hL).run (hw.exec c).1 before
    have hu : u.WellNumbered := ((ht.exec now c).run before).wellNumbered
    exact ((hissued.revoked hu hchange).run (hu.exec c').1 after).refuses now'

/-- A worker that was granted a job and completed it under its lease can neither renew, complete
nor fail it again, and the refused completion leaves the table alone. -/
theorem completed_lease_refused :
    let t :=
      (({} : JobTable).exec {} .memory ⟨0⟩ (.enqueue { userId := "alice", message := "hello" })).2
    let L : Lease :=
      ⟨jobLabel 1, "w1", 1, Instant.add ⟨0⟩ ({} : QueueConfig).leaseTtl,
        ({} : QueueConfig).leaseTtl⟩
    let v :=
      ((t.exec {} .memory ⟨0⟩ (.dequeue [] "w1")).2.exec {} .memory ⟨0⟩ (.complete L default)).2
    v.Refuses .memory ⟨0⟩ L ∧ (v.exec {} .memory ⟨0⟩ (.complete L default)).2 = v :=
  ⟨(lease_fencing {} .memory).2.1 _ ⟨0⟩ (.dequeue [] "w1") _ _ (.exec _ _ .empty) rfl rfl [] ⟨0⟩
      _ [] ⟨0⟩ (.inr ⟨_, _, rfl, rfl, .inr (by decide)⟩),
    (lease_fencing {} .memory).2.2 _ ⟨0⟩ (.complete _ default) _ rfl⟩

end ResilientAgent
