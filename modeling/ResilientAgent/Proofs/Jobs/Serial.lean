import ResilientAgent.Proofs.Jobs.Progress

/-!
# One job in progress per user

When jobs are serialised per user, a user has at most one job in progress at a time. The two
calls that put a job in progress check it each in their own way: a dequeue leaves out the users
it finds busy before it looks for a job, and a lease by name refuses a busy user before it looks
at the job. Every other call only keeps a job in progress or takes it out of progress, the
reaper included, and keeps the user a job belongs to (`JobMove.processing`, `JobMove.userId`).

So `SerialPerUser` holds of the empty table and is kept by every call, and hence holds of every
table the queue reaches.
-/

namespace ResilientAgent

/-- Whether a call may put a job in progress. -/
def QueueCall.grants : QueueCall → Bool
  | .dequeue .. | .lease .. => true
  | _ => false

namespace JobTable

/-- No two stored jobs of one user are in progress at once. -/
def SerialPerUser (t : JobTable) : Prop :=
  ∀ X Y j k, t.find? X = some j → t.find? Y = some k → j.status = .processing →
    k.status = .processing → j.userId = k.userId → X = Y

variable {config : QueueConfig} {b : Backend} {now : Instant} {t : JobTable}

theorem userId_mem_busyUsers {X : String} {j : Job} (h : t.find? X = some j)
    (hproc : j.status = .processing) : j.userId ∈ t.busyUsers := by
  obtain ⟨s, hs, rfl⟩ := mem_of_find? h
  exact List.mem_map.mpr ⟨s, List.mem_filter.mpr ⟨hs, by simp [hproc]⟩, rfl⟩

theorem serialPerUser_empty : ({} : JobTable).SerialPerUser := by
  intro X _ _ _ hX
  simp [find?] at hX

theorem SerialPerUser.update (hinv : t.SerialPerUser) {G : String} {g : Job} (hid : g.jobId = G)
    (hfree : g.userId ∉ t.busyUsers) : (t.update G fun _ => g).SerialPerUser := by
  have hstore : ∀ Z j', (t.update G fun _ => g).find? Z = some j' →
      Z = G ∧ j' = g ∨ Z ≠ G ∧ t.find? Z = some j' := by
    intro Z j' hZ
    by_cases hZG : Z = G
    · subst hZG
      rw [find?_update_self fun _ _ => hid] at hZ
      obtain ⟨_, -, rfl⟩ := Option.map_eq_some_iff.mp hZ
      exact .inl ⟨rfl, rfl⟩
    · rw [find?_update_of_ne (fun _ _ => hid) hZG] at hZ
      exact .inr ⟨hZG, hZ⟩
  intro X Y j k hX hY hj hk huser
  rcases hstore X j hX with ⟨hXG, hjg⟩ | ⟨-, hXold⟩ <;>
    rcases hstore Y k hY with ⟨hYG, hkg⟩ | ⟨-, hYold⟩
  · exact hXG.trans hYG.symm
  · -- the other job was in progress before, so its user was busy
    subst hjg
    exact absurd (userId_mem_busyUsers hYold hk) (huser ▸ hfree)
  · subst hkg
    exact absurd (huser ▸ userId_mem_busyUsers hXold hj) hfree
  · exact hinv X Y j k hXold hYold hj hk huser

theorem processing_before (hw : t.WellNumbered) {c : QueueCall} (hc : c.grants = false)
    {X : String} {j' : Job} (h' : (t.exec config b now c).2.find? X = some j')
    (hproc : j'.status = .processing) :
    ∃ j, t.find? X = some j ∧ j.status = .processing ∧ j.userId = j'.userId := by
  rcases find?_exec_eq_some hw h' with ⟨j, hj, hmove⟩ | ⟨_, -, -, rfl⟩
  · refine ⟨j, hj, ?_, hmove.userId.symm⟩
    rcases hmove.processing hproc with hwas | ⟨-, ⟨_, _, rfl⟩ | ⟨_, _, rfl⟩⟩
    · exact hwas
    all_goals cases hc
  · -- a submission stores a queued job
    cases hproc

theorem SerialPerUser.exec_of_grants_false (hw : t.WellNumbered) (hinv : t.SerialPerUser)
    {c : QueueCall} (hc : c.grants = false) : (t.exec config b now c).2.SerialPerUser := by
  intro X Y j' k' hX hY hj hk huser
  obtain ⟨j, hjX, hjproc, hjuser⟩ := processing_before hw hc hX hj
  obtain ⟨k, hkY, hkproc, hkuser⟩ := processing_before hw hc hY hk
  exact hinv X Y j k hjX hkY hjproc hkproc (by rw [hjuser, hkuser, huser])

theorem SerialPerUser.exec (hserial : config.serializePerUser = true) (hw : t.WellNumbered)
    (hinv : t.SerialPerUser) (c : QueueCall) : (t.exec config b now c).2.SerialPerUser := by
  cases c with
  | dequeue ps w =>
    rcases dequeue_cases t config b now ps w with hnone | ⟨s, -, -, hfree, hdeq⟩
    · simpa only [JobTable.exec, hnone] using hinv
    · simp only [JobTable.exec, hdeq]
      exact hinv.update rfl (hfree hserial)
  | lease X w ttl =>
    cases hlease : t.lease config b now X w ttl with
    | error e => simpa only [JobTable.exec, commit, hlease] using hinv
    | ok r =>
      obtain ⟨L, t'⟩ := r
      obtain ⟨j, hfound, -, hfree, -, rfl⟩ := lease_eq_ok hlease
      simp only [JobTable.exec, commit, hlease]
      exact hinv.update ((grant_jobId j w ttl).trans (jobId_of_find? hfound)) (hfree hserial)
  | enqueue | get | renew | complete | fail | reap | purge | depth =>
    exact hinv.exec_of_grants_false hw rfl

theorem Reachable.serialPerUser (hserial : config.serializePerUser = true)
    (h : Reachable config b t) : t.SerialPerUser := by
  induction h with
  | empty => exact serialPerUser_empty
  | exec now c ht ih => exact ih.exec hserial ht.wellNumbered c

theorem find?_reap_of_processing (hw : t.WellNumbered) {X : String} {j' : Job}
    (h' : (t.reap config b now).2.find? X = some j') (hproc : j'.status = .processing) :
    t.find? X = some j' := by
  rw [reap_eq_mapJobs hw.nodup, find?_mapJobs _ (Job.reaped_jobId config _)] at h'
  obtain ⟨j, hj, rfl⟩ := Option.map_eq_some_iff.mp h'
  rcases Job.reaped_cases config (b.stamp now) j with hsame | ⟨-, -, hout⟩
  · rw [hsame]
    exact hj
  · exact absurd hproc hout

end JobTable

open JobTable in
/-- With jobs serialised per user, a queue in memory never has two jobs of one user in progress,
whatever calls it gets at whatever instants. A dequeue never grants a job of a user with a job in
progress, a lease by name of such a job is refused as a busy user's, and a reaper pass only takes
jobs out of progress. -/
theorem jobs_serialized_per_user (config : QueueConfig) (hserial : config.serializePerUser = true) :
    (∀ t : JobTable, Reachable config .memory t →
      ∀ X Y j k, t.find? X = some j → t.find? Y = some k → j.status = .processing →
        k.status = .processing → j.userId = k.userId → X = Y) ∧
    (∀ (t : JobTable) (now : Instant) (ps : List Priority) (w : String) (g : Job × Lease),
      (t.dequeue config .memory now ps w).1 = some g → g.1.userId ∉ t.busyUsers) ∧
    (∀ (t : JobTable) (now : Instant) (X w : String) (ttl : Duration) (j : Job),
      t.find? X = some j → j.userId ∈ t.busyUsers →
        t.lease config .memory now X w ttl = .error (userBusy j.userId)) ∧
    (∀ (t : JobTable) (now : Instant), Reachable config .memory t →
      ∀ X j', (t.reap config .memory now).2.find? X = some j' → j'.status = .processing →
        t.find? X = some j') := by
  refine ⟨fun t h => h.serialPerUser hserial, fun t now ps w g hg => ?_,
    fun t now X w ttl j hfound hbusy => ?_, fun t now h X j' h' hproc => ?_⟩
  · rcases dequeue_cases t config .memory now ps w with hnone | ⟨s, -, -, hfree, hdeq⟩
    · rw [hnone] at hg
      cases hg
    · rw [hdeq, Option.some.injEq] at hg
      subst hg
      exact hfree hserial
  · -- in memory a busy user is refused before the job's status is looked at
    simp [lease, hfound, hserial, hbusy, throw, throwThe, MonadExceptOf.throw, bind, Except.bind]
  · exact find?_reap_of_processing h.wellNumbered h' hproc

/-- A user with two jobs who has the first in progress is refused a lease of the second. -/
theorem second_job_of_busy_user_refused :
    let t := ({} : JobTable).run {} .memory
      [(.enqueue { userId := "alice", message := "first" }, ⟨0⟩),
       (.enqueue { userId := "alice", message := "second" }, ⟨0⟩),
       (.dequeue [] "w1", ⟨0⟩)]
    t.lease {} .memory ⟨0⟩ (jobLabel 2) "w2" ({} : QueueConfig).leaseTtl =
      .error (JobTable.userBusy "alice") :=
  by
    intro t
    exact (jobs_serialized_per_user {} rfl).2.2.1 t ⟨0⟩ (jobLabel 2) "w2" _ _ rfl (by decide)

end ResilientAgent
