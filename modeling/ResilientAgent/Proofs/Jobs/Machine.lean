import ResilientAgent.Proofs.Jobs.Table

/-!
# The job queue as a state machine

A queue is driven by calls: submissions and reads, grants by dequeue or by name, renewals,
settlements, reaper passes and purges, each made at an instant the caller's clock reads, and the
clock may move either way between two calls. `exec` makes one call on a table. As the store does,
it keeps the table an operation leaves when the operation succeeds and the old table when it
fails. `Reachable` holds of every table that some sequence of calls builds from the empty queue.

`JobMove` says once what a call can do to one stored job. `find?_exec` reads every call, by
identifier, as a `JobMove` of the job stored there, a purge dropping an expired job, or a
submission storing a fresh job under the next label; the invariants of the queue are proved from
it one job at a time.
-/

namespace ResilientAgent

/-- A call on the job queue, with the arguments its caller passes. -/
inductive QueueCall where
  | enqueue (new : NewJob)
  | get (jobId : String)
  | dequeue (priorities : List Priority) (workerId : String)
  | lease (jobId workerId : String) (ttl : Duration)
  | renew (l : Lease)
  | complete (l : Lease) (r : JobResult)
  | fail (l : Lease) (f : JobFailure)
  | reap
  | purge
  | depth

/-- What a call answers when it succeeds. -/
inductive QueueAnswer where
  /-- The job a submission stored or a settlement ended. -/
  | job (j : Job)
  /-- The job a read found, if any. -/
  | found (j : Option Job)
  /-- The job a dequeue granted, with its lease, if there was one to grant. -/
  | granted (g : Option (Job × Lease))
  /-- The lease a lease by name or a renewal handed out. -/
  | lease (l : Lease)
  | report (r : ReapReport)
  | count (n : Nat)

/-- The lease an answer hands out, if it hands one out. -/
def QueueAnswer.lease? : QueueAnswer → Option Lease
  | .granted (some (_, l)) => some l
  | .lease l => some l
  | _ => none

/-- What a call made at `now` may do to one stored job. -/
inductive JobMove (config : QueueConfig) (b : Backend) (now : Instant) :
    QueueCall → Job → Job → Prop
  /-- The job stays as it is. -/
  | keep {c : QueueCall} {j : Job} : JobMove config b now c j j
  /-- A dequeue delivers a queued job once more, under the configured lease. -/
  | dequeue {ps : List Priority} {w : String} {j : Job} (hqueued : j.status = .queued) :
      JobMove config b now (.dequeue ps w) j (JobTable.grant j b w config.leaseTtl now).1
  /-- A lease by name delivers the queued job it names once more. -/
  | lease {w : String} {ttl : Duration} {j : Job} (hqueued : j.status = .queued) :
      JobMove config b now (.lease j.jobId w ttl) j (JobTable.grant j b w ttl now).1
  /-- A renewal with a lease the job holds pushes out its deadline. -/
  | renew {l : Lease} {j : Job} (hholds : j.holds l = true) :
      JobMove config b now (.renew l) j
        { j with leaseExpiresAt := some (b.stamp ((b.stamp now).add l.ttl)) }
  /-- A completion with a lease the job holds ends it with its result. -/
  | complete {l : Lease} {r : JobResult} {j : Job} (hholds : j.holds l = true) :
      JobMove config b now (.complete l r) j
        { j with status := .completed, result := some r, error := b.settled none j.error,
                 completedAt := some (b.stamp now), leaseOwner := none, leaseExpiresAt := none }
  /-- A failure with a lease the job holds ends it with the failure. -/
  | fail {l : Lease} {f : JobFailure} {j : Job} (hholds : j.holds l = true) :
      JobMove config b now (.fail l f) j
        { j with status := .failed, result := b.settled none j.result, error := some f,
                 completedAt := some (b.stamp now), leaseOwner := none, leaseExpiresAt := none }
  /-- A reaper pass leaves the job as the reaper leaves every job. -/
  | reap {j : Job} : JobMove config b now .reap j (j.reaped config (b.stamp now))

/-- What a call made at `now` does to the entry under the identifier `X` of a table that has seen
`submitted` submissions: the job there moves, a purge drops it once expired, a submission stores
a fresh job under the next label, or there was no job and there is none. -/
inductive EntryMove (config : QueueConfig) (b : Backend) (now : Instant) (submitted : Nat)
    (X : String) : QueueCall → Option Job → Option Job → Prop
  | move {c : QueueCall} {j j' : Job} :
      JobMove config b now c j j' → EntryMove config b now submitted X c (some j) (some j')
  | purge {j : Job} (hexpired : j.expired config b now = true) :
      EntryMove config b now submitted X .purge (some j) none
  | submit {new : NewJob} (hX : X = jobLabel (submitted + 1)) :
      EntryMove config b now submitted X (.enqueue new) none
        (some (new.toJob (submitted + 1) (b.stamp now)))
  | absent {c : QueueCall} : EntryMove config b now submitted X c none none

theorem EntryMove.refl {config : QueueConfig} {b : Backend} {now : Instant} {n : Nat} {X : String}
    {c : QueueCall} (o : Option Job) : EntryMove config b now n X c o o := by
  cases o with
  | none => exact .absent
  | some j => exact .move .keep

namespace JobTable

/-- An operation's outcome as the store keeps it: the table the operation leaves when it
succeeds, the old table when it fails. -/
def commit {α : Type} (t : JobTable) (answer : α → QueueAnswer) :
    Except AgentError (α × JobTable) → Except AgentError QueueAnswer × JobTable
  | .ok (a, t') => (.ok (answer a), t')
  | .error e => (.error e, t)

/-- One call on the table, made at `now`. -/
def exec (t : JobTable) (config : QueueConfig) (b : Backend) (now : Instant) :
    QueueCall → Except AgentError QueueAnswer × JobTable
  | .enqueue new => t.commit .job (t.enqueue config b now new)
  | .get jobId => (.ok (.found (t.find? jobId)), t)
  | .dequeue ps w =>
    let r := t.dequeue config b now ps w
    (.ok (.granted r.1), r.2)
  | .lease jobId w ttl => t.commit .lease (t.lease config b now jobId w ttl)
  | .renew l => t.commit .lease (t.renew b now l)
  | .complete l r => t.commit .job (t.complete b now l r)
  | .fail l f => t.commit .job (t.fail b now l f)
  | .reap =>
    let r := t.reap config b now
    (.ok (.report r.1), r.2)
  | .purge =>
    let r := t.purge config b now
    (.ok (.count r.1), r.2)
  | .depth => (.ok (.count t.depth), t)

/-- The table after calls made one after another, each at its own instant. -/
def run (t : JobTable) (config : QueueConfig) (b : Backend) :
    List (QueueCall × Instant) → JobTable
  | [] => t
  | (c, now) :: calls => ((t.exec config b now c).2).run config b calls

/-- A queue's first calls: one submission, then a dequeue by worker `w1`, at the scripted epoch. -/
def submitThenDequeue : List (QueueCall × Instant) :=
  [(.enqueue { userId := "alice", message := "hello" }, Instant.scriptEpoch),
   (.dequeue [] "w1", Instant.scriptEpoch)]

theorem run_append (t : JobTable) (config : QueueConfig) (b : Backend)
    (calls more : List (QueueCall × Instant)) :
    t.run config b (calls ++ more) = (t.run config b calls).run config b more := by
  induction calls generalizing t with
  | nil => rfl
  | cons call calls ih => exact ih _

/-- The tables that some sequence of calls builds from the empty queue. -/
inductive Reachable (config : QueueConfig) (b : Backend) : JobTable → Prop
  | empty : Reachable config b {}
  | exec {t : JobTable} (now : Instant) (c : QueueCall) :
      Reachable config b t → Reachable config b (t.exec config b now c).2

variable {config : QueueConfig} {b : Backend} {now : Instant} {t : JobTable}

private theorem entryMove_update {n : Nat} {X Y : String} {c : QueueCall} {f : Job → Job}
    (hf : ∀ j, j.jobId = Y → (f j).jobId = Y)
    (hmove : ∀ j, t.find? Y = some j → JobMove config b now c j (f j)) :
    EntryMove config b now n X c (t.find? X) ((t.update Y f).find? X) := by
  by_cases hX : X = Y
  · subst hX
    rw [find?_update_self hf]
    cases hfound : t.find? X with
    | none => exact .absent
    | some j => exact .move (hmove j hfound)
  · rw [find?_update_of_ne hf hX]
    exact .refl _

/-- Every call, read at one identifier. -/
theorem find?_exec (hw : t.WellNumbered) (c : QueueCall) (X : String) :
    EntryMove config b now t.submitted X c (t.find? X) ((t.exec config b now c).2.find? X) := by
  cases c with
  | enqueue new =>
    cases h : t.enqueue config b now new with
    | error e =>
      simp only [exec, commit, h]
      exact .refl _
    | ok p =>
      obtain ⟨job, t'⟩ := p
      obtain ⟨rfl, rfl⟩ := enqueue_eq_ok h
      simp only [exec, commit, h]
      rw [find?_append hw rfl X]
      split_ifs with hX
      · have hlabel : (new.toJob (t.submitted + 1) (b.stamp now)).jobId =
            jobLabel (t.submitted + 1) := rfl
        rw [hX, hlabel, find?_next_label hw]
        exact .submit rfl
      · exact .refl _
  | get => exact .refl _
  | dequeue ps w =>
    rcases dequeue_cases t config b now ps w with
      hnone | ⟨s, hs, hqueued, -, hdeq⟩
    · simp only [exec, hnone]
      exact .refl _
    · simp only [exec, hdeq]
      refine entryMove_update (fun _ _ => rfl) fun j hj => ?_
      rw [find?_of_mem hw.nodup hs, Option.some.injEq] at hj
      subst hj
      exact .dequeue hqueued
  | lease Y w ttl =>
    cases h : t.lease config b now Y w ttl with
    | error e =>
      simp only [exec, commit, h]
      exact .refl _
    | ok p =>
      obtain ⟨L, t'⟩ := p
      obtain ⟨j, hfound, hqueued, -, -, rfl⟩ := lease_eq_ok h
      obtain rfl := jobId_of_find? hfound
      simp only [exec, commit, h]
      refine entryMove_update (fun _ _ => rfl) fun j' hj' => ?_
      rw [hfound, Option.some.injEq] at hj'
      subst hj'
      exact .lease hqueued
  | renew l =>
    cases h : t.renew b now l with
    | error e =>
      simp only [exec, commit, h]
      exact .refl _
    | ok p =>
      obtain ⟨L', t'⟩ := p
      obtain ⟨j, hfound, hholds, -, rfl⟩ := renew_eq_ok h
      simp only [exec, commit, h]
      refine entryMove_update (fun _ hY => hY) fun j' hj' => ?_
      rw [hfound, Option.some.injEq] at hj'
      subst hj'
      exact .renew hholds
  | complete l r =>
    cases h : t.complete b now l r with
    | error e =>
      simp only [exec, commit, h]
      exact .refl _
    | ok p =>
      obtain ⟨job, t'⟩ := p
      obtain ⟨j, hfound, hholds, rfl, rfl⟩ := settle_eq_ok h
      have hid : j.jobId = l.jobId := jobId_of_find? hfound
      simp only [exec, commit, h]
      refine entryMove_update (fun _ _ => hid) fun j' hj' => ?_
      rw [hfound, Option.some.injEq] at hj'
      subst hj'
      rw [Backend.settled_some]
      exact .complete hholds
  | fail l f =>
    cases h : t.fail b now l f with
    | error e =>
      simp only [exec, commit, h]
      exact .refl _
    | ok p =>
      obtain ⟨job, t'⟩ := p
      obtain ⟨j, hfound, hholds, rfl, rfl⟩ := settle_eq_ok h
      have hid : j.jobId = l.jobId := jobId_of_find? hfound
      simp only [exec, commit, h]
      refine entryMove_update (fun _ _ => hid) fun j' hj' => ?_
      rw [hfound, Option.some.injEq] at hj'
      subst hj'
      rw [Backend.settled_some]
      exact .fail hholds
  | reap =>
    simp only [exec]
    rw [reap_eq_mapJobs hw.nodup, find?_mapJobs _ (Job.reaped_jobId config _)]
    cases t.find? X with
    | none => exact .absent
    | some j => exact .move .reap
  | purge =>
    simp only [exec]
    rw [find?_purge hw.nodup]
    cases t.find? X with
    | none => exact .absent
    | some j =>
      by_cases hexp : j.expired config b now
      · simp only [Option.filter_some, hexp, Bool.not_true, Bool.false_eq_true, if_false]
        exact .purge hexp
      · simp only [Option.filter_some, hexp, Bool.not_false, if_true]
        exact .refl _
  | depth => exact .refl _

/-- Every call keeps the table well numbered, and no call lowers the submission count. -/
theorem WellNumbered.exec (hw : t.WellNumbered) (c : QueueCall) :
    (t.exec config b now c).2.WellNumbered ∧ t.submitted ≤ (t.exec config b now c).2.submitted := by
  cases c with
  | enqueue new =>
    cases h : t.enqueue config b now new with
    | error e =>
      simp only [JobTable.exec, commit, h]
      exact ⟨hw, le_rfl⟩
    | ok p =>
      obtain ⟨job, t'⟩ := p
      obtain ⟨rfl, rfl⟩ := enqueue_eq_ok h
      simp only [JobTable.exec, commit, h]
      exact ⟨hw.append rfl, Nat.le_succ _⟩
  | get => exact ⟨hw, le_rfl⟩
  | dequeue ps w =>
    rcases dequeue_cases t config b now ps w with
      hnone | ⟨s, -, -, -, hdeq⟩
    · simp only [JobTable.exec, hnone]
      exact ⟨hw, le_rfl⟩
    · simp only [JobTable.exec, hdeq]
      exact ⟨hw.update fun _ _ => rfl, le_rfl⟩
  | lease Y w ttl =>
    cases h : t.lease config b now Y w ttl with
    | error e =>
      simp only [JobTable.exec, commit, h]
      exact ⟨hw, le_rfl⟩
    | ok p =>
      obtain ⟨L, t'⟩ := p
      obtain ⟨j, hfound, -, -, -, rfl⟩ := lease_eq_ok h
      have hid : j.jobId = Y := jobId_of_find? hfound
      simp only [JobTable.exec, commit, h]
      exact ⟨hw.update fun _ _ => hid, le_rfl⟩
  | renew l =>
    cases h : t.renew b now l with
    | error e =>
      simp only [JobTable.exec, commit, h]
      exact ⟨hw, le_rfl⟩
    | ok p =>
      obtain ⟨L', t'⟩ := p
      obtain ⟨j, -, -, -, rfl⟩ := renew_eq_ok h
      simp only [JobTable.exec, commit, h]
      exact ⟨hw.update fun _ hY => hY, le_rfl⟩
  | complete l r =>
    cases h : t.complete b now l r with
    | error e =>
      simp only [JobTable.exec, commit, h]
      exact ⟨hw, le_rfl⟩
    | ok p =>
      obtain ⟨job, t'⟩ := p
      obtain ⟨j, hfound, -, rfl, rfl⟩ := settle_eq_ok h
      have hid : j.jobId = l.jobId := jobId_of_find? hfound
      simp only [JobTable.exec, commit, h]
      exact ⟨hw.update fun _ _ => hid, le_rfl⟩
  | fail l f =>
    cases h : t.fail b now l f with
    | error e =>
      simp only [JobTable.exec, commit, h]
      exact ⟨hw, le_rfl⟩
    | ok p =>
      obtain ⟨job, t'⟩ := p
      obtain ⟨j, hfound, -, rfl, rfl⟩ := settle_eq_ok h
      have hid : j.jobId = l.jobId := jobId_of_find? hfound
      simp only [JobTable.exec, commit, h]
      exact ⟨hw.update fun _ _ => hid, le_rfl⟩
  | reap =>
    simp only [JobTable.exec]
    rw [reap_eq_mapJobs hw.nodup]
    exact ⟨hw.mapJobs _ (Job.reaped_jobId config _), le_rfl⟩
  | purge => exact ⟨hw.purge config b now, le_rfl⟩
  | depth => exact ⟨hw, le_rfl⟩

theorem Reachable.run (h : Reachable config b t) (calls : List (QueueCall × Instant)) :
    Reachable config b (t.run config b calls) := by
  induction calls generalizing t with
  | nil => exact h
  | cons call calls ih => exact ih (h.exec call.2 call.1)

theorem commit_snd_of_error {α : Type} {answer : α → QueueAnswer}
    {r : Except AgentError (α × JobTable)} {e : AgentError} (h : (t.commit answer r).1 = .error e) :
    (t.commit answer r).2 = t := by
  cases r with
  | ok p =>
    obtain ⟨a, t'⟩ := p
    cases h
  | error e' => rfl

theorem exec_error {c : QueueCall} {e : AgentError} (h : (t.exec config b now c).1 = .error e) :
    (t.exec config b now c).2 = t := by
  cases c with
  | enqueue new => exact commit_snd_of_error h
  | lease jobId w ttl => exact commit_snd_of_error h
  | renew l => exact commit_snd_of_error h
  | complete l r => exact commit_snd_of_error h
  | fail l f => exact commit_snd_of_error h
  | get | dequeue | reap | purge | depth => cases h

theorem Reachable.wellNumbered (h : Reachable config b t) : t.WellNumbered := by
  induction h with
  | empty => exact wellNumbered_empty
  | exec now c _ ih => exact (ih.exec c).1

/-- The identifier was the label of a submission made so far. -/
def Labelled (t : JobTable) (X : String) : Prop := ∃ n, n ≤ t.submitted ∧ X = jobLabel n

theorem Labelled.exec (hw : t.WellNumbered) {X : String} (hX : t.Labelled X) (c : QueueCall) :
    (t.exec config b now c).2.Labelled X := by
  obtain ⟨n, hn, rfl⟩ := hX
  exact ⟨n, hn.trans (hw.exec c).2, rfl⟩

theorem find?_exec_eq_some (hw : t.WellNumbered) {X : String} {c : QueueCall} {j' : Job}
    (h' : (t.exec config b now c).2.find? X = some j') :
    (∃ j, t.find? X = some j ∧ JobMove config b now c j j') ∨
      ∃ new, c = .enqueue new ∧ X = jobLabel (t.submitted + 1) ∧
        j' = new.toJob (t.submitted + 1) (b.stamp now) := by
  have hentry : EntryMove config b now t.submitted X c (t.find? X)
      ((t.exec config b now c).2.find? X) := find?_exec hw c X
  rw [h'] at hentry
  generalize hbefore : t.find? X = before at hentry
  cases hentry with
  | move hjob => exact .inl ⟨_, rfl, hjob⟩
  | submit hnext => exact .inr ⟨_, rfl, hnext, rfl⟩

theorem exec_find?_of_labelled (hw : t.WellNumbered) {X : String} (hX : t.Labelled X)
    {c : QueueCall} {Q : Job → Prop} (hQ : ∀ {j j'}, JobMove config b now c j j' → Q j → Q j')
    (h : ∀ j, t.find? X = some j → Q j) :
    ∀ j', (t.exec config b now c).2.find? X = some j' → Q j' := by
  intro j' hj'
  rcases find?_exec_eq_some hw hj' with ⟨j, hj, hmove⟩ | ⟨-, -, hnext, -⟩
  · exact hQ hmove (h j hj)
  · obtain ⟨n, hn, hlabel⟩ := hX
    have := jobLabel_injective (hlabel.symm.trans hnext)
    omega

theorem labelled_of_find? (hw : t.WellNumbered) {X : String} {j : Job} (h : t.find? X = some j) :
    t.Labelled X := by
  obtain ⟨s, hs, rfl⟩ := mem_of_find? h
  obtain ⟨n, hn, hlabel⟩ := hw.issued s hs
  exact ⟨n, hn, (jobId_of_find? h).symm.trans hlabel⟩

theorem jobMove_of_find? (hw : t.WellNumbered) {X : String} {c : QueueCall} {j j' : Job}
    (h : t.find? X = some j) (h' : (t.exec config b now c).2.find? X = some j') :
    JobMove config b now c j j' := by
  have hentry : EntryMove config b now t.submitted X c (t.find? X)
      ((t.exec config b now c).2.find? X) := find?_exec hw c X
  rw [h, h'] at hentry
  cases hentry with
  | move hjob => exact hjob

theorem purged_of_find? (hw : t.WellNumbered) {X : String} {c : QueueCall} {j : Job}
    (h : t.find? X = some j) (h' : (t.exec config b now c).2.find? X = none) :
    c = .purge ∧ j.expired config b now = true := by
  have hentry : EntryMove config b now t.submitted X c (t.find? X)
      ((t.exec config b now c).2.find? X) := find?_exec hw c X
  rw [h, h'] at hentry
  cases hentry with
  | purge hexpired => exact ⟨rfl, hexpired⟩

theorem run_of_exec (P : JobTable → Prop)
    (hstep : ∀ {u : JobTable} {now : Instant} {c : QueueCall}, u.WellNumbered → P u →
      P (u.exec config b now c).2) :
    ∀ (calls : List (QueueCall × Instant)) {t : JobTable}, t.WellNumbered → P t →
      P (t.run config b calls)
  | [], _, _, hP => hP
  | (c, _) :: calls, _, hw, hP => run_of_exec P hstep calls (hw.exec c).1 (hstep hw hP)

theorem run_find?_of_moves (hw : t.WellNumbered) {X : String} {Q : Job → Prop}
    (hQ : ∀ {now : Instant} {c : QueueCall} {j j' : Job}, JobMove config b now c j j' → Q j → Q j')
    {j : Job} (h : t.find? X = some j) (hj : Q j) (calls : List (QueueCall × Instant)) :
    ∀ j', (t.run config b calls).find? X = some j' → Q j' := by
  -- the identifier stays labelled, so no submission takes it over during the run
  have hstart : t.Labelled X ∧ ∀ j', t.find? X = some j' → Q j' := by
    refine ⟨labelled_of_find? hw h, fun j' hj' => ?_⟩
    rw [h] at hj'
    obtain rfl := Option.some.inj hj'
    exact hj
  refine (run_of_exec (fun u => u.Labelled X ∧ ∀ j', u.find? X = some j' → Q j') ?_
    calls hw hstart).2
  intro u now c hu hP
  exact ⟨hP.1.exec hu c, exec_find?_of_labelled hu hP.1 hQ hP.2⟩

theorem Reachable.find?_of_moves (P : Job → Prop)
    (hfresh : ∀ (new : NewJob) (n : Nat) (at_ : Instant), P (new.toJob n at_))
    (hmove : ∀ {now : Instant} {c : QueueCall} {j j' : Job},
      JobMove config b now c j j' → P j → P j')
    (h : Reachable config b t) : ∀ X j, t.find? X = some j → P j := by
  induction h with
  | empty => simp [find?]
  | @exec t now c ht ih =>
    intro X j' hj'
    rcases find?_exec_eq_some ht.wellNumbered hj' with ⟨j, hj, hjob⟩ | ⟨_, -, -, rfl⟩
    · exact hmove hjob (ih X j hj)
    · exact hfresh _ _ _

end JobTable

end ResilientAgent
