import Mathlib
import ResilientAgent.Jobs.Queue

/-!
# The job table read by identifier

The queue's operations are written over the list of slots: an update rewrites every slot that
carries an identifier, the reaper folds over the slots, a purge filters them. Read through
`find?`, by identifier, each of them changes one job, or every job in its own place, and that
reading is what the proofs about the queue work with.

It rests on `WellNumbered`, which the operations keep: the stored identifiers are distinct, and
each is the label of a submission made so far. Distinct identifiers make the reaper's fold a map
over the jobs and let a purge drop exactly the jobs it finds expired; labels of earlier
submissions mean that a new submission never takes the identifier of a job that is stored, or
that was stored once and purged.
-/

namespace ResilientAgent

theorem jobLabel_injective : Function.Injective jobLabel := fun _ _ h =>
  Nat.repr_injective ((String.append_right_inj _).mp h)

theorem Job.holds_iff (j : Job) (l : Lease) :
    j.holds l = true ↔
      j.status = .processing ∧ j.leaseOwner = some l.workerId ∧ j.attempts = l.attempt := by
  simp [Job.holds, and_assoc]

/-- Whether a job is in progress under a lease that has lapsed by `now`; a slot has lapsed
exactly when its job has. -/
def Job.lapsed (j : Job) (now : Instant) : Bool :=
  j.status == .processing &&
    match j.leaseExpiresAt with
    | some at_ => at_.sinceEpoch ≤ now.sinceEpoch
    | none => false

@[simp] theorem Slot.lapsed_eq (s : Slot) (now : Instant) : s.lapsed now = s.job.lapsed now := rfl

theorem Job.lapsed_iff {j : Job} {now : Instant} :
    j.lapsed now = true ↔
      j.status = .processing ∧
        ∃ at_, j.leaseExpiresAt = some at_ ∧ at_.sinceEpoch ≤ now.sinceEpoch := by
  unfold Job.lapsed
  cases j.leaseExpiresAt <;> simp

theorem Job.status_of_lapsed {j : Job} {now : Instant} (h : j.lapsed now = true) :
    j.status = .processing :=
  (Job.lapsed_iff.mp h).1

/-- The job the reaper leaves behind at `now`: a job whose lease has lapsed goes back to the queue
while deliveries remain and fails once they are spent; every other job stays as it is. -/
def Job.reaped (config : QueueConfig) (now : Instant) (j : Job) : Job :=
  if !j.lapsed now then j
  else if j.attempts < config.maxAttempts then
    { j with status := .queued, leaseOwner := none, leaseExpiresAt := none }
  else
    { j with status := .failed, completedAt := some now,
             error := some (JobFailure.ofError (.leaseExpired j.jobId j.attempts)),
             leaseOwner := none, leaseExpiresAt := none }

/-- Whether a terminal job's retention has passed by `now`; a slot has expired exactly when its
job has. -/
def Job.expired (j : Job) (config : QueueConfig) (b : Backend) (now : Instant) : Bool :=
  j.status.isTerminal &&
    match j.completedAt with
    | none => false
    | some at_ =>
      match b with
      | .memory => (at_.add config.retention).sinceEpoch ≤ now.sinceEpoch
      | .database => at_.millis ≤ now.millisBefore config.retention

@[simp] theorem Slot.expired_eq (s : Slot) (config : QueueConfig) (b : Backend) (now : Instant) :
    s.expired config b now = s.job.expired config b now := rfl

theorem Job.expired_memory_iff {j : Job} {config : QueueConfig} {now : Instant} :
    j.expired config .memory now = true ↔
      j.status.isTerminal = true ∧
        ∃ at_, j.completedAt = some at_ ∧
          (at_.add config.retention).sinceEpoch ≤ now.sinceEpoch := by
  unfold Job.expired
  cases j.completedAt <;> simp

@[simp] theorem Job.reaped_jobId (config : QueueConfig) (now : Instant) (j : Job) :
    (j.reaped config now).jobId = j.jobId := by
  unfold Job.reaped
  split_ifs <;> rfl

theorem Job.reaped_cases (config : QueueConfig) (now : Instant) (j : Job) :
    j.reaped config now = j ∨
      j.lapsed now = true ∧ (j.reaped config now).attempts = j.attempts ∧
        (j.reaped config now).status ≠ .processing := by
  unfold Job.reaped
  split_ifs with hlapsed
  · exact .inl rfl
  all_goals exact .inr ⟨by simpa using hlapsed, rfl, by simp⟩

namespace JobTable

variable {t : JobTable} {X : String} {j : Job}

/-- The table with every job changed by `h`, each in its own slot. -/
def mapJobs (t : JobTable) (h : Job → Job) : JobTable :=
  { t with slots := t.slots.map fun s => { s with job := h s.job } }

@[simp] theorem mapJobs_submitted (t : JobTable) (h : Job → Job) :
    (t.mapJobs h).submitted = t.submitted := rfl

theorem jobId_of_find? (h : t.find? X = some j) : j.jobId = X := by
  obtain ⟨s, hs, rfl⟩ := Option.map_eq_some_iff.mp h
  simpa using List.find?_some hs

theorem mem_of_find? (h : t.find? X = some j) : ∃ s ∈ t.slots, s.job = j := by
  obtain ⟨s, hs, rfl⟩ := Option.map_eq_some_iff.mp h
  exact ⟨s, List.mem_of_find?_eq_some hs, rfl⟩

theorem find?_eq_none_iff : t.find? X = none ↔ ∀ s ∈ t.slots, s.job.jobId ≠ X := by
  simp [find?, List.find?_eq_none]

theorem find?_mapJobs (h : Job → Job) (hid : ∀ j, (h j).jobId = j.jobId) (X : String) :
    (t.mapJobs h).find? X = (t.find? X).map h := by
  have hpred : ((fun s : Slot => s.job.jobId == X) ∘
      fun s : Slot => ({ s with job := h s.job } : Slot)) = fun s => s.job.jobId == X := by
    funext s
    simp [hid]
  simp only [find?, mapJobs, List.find?_map, hpred, Option.map_map]
  rfl

theorem update_eq_mapJobs (t : JobTable) (X : String) (f : Job → Job) :
    t.update X f = t.mapJobs fun j => if j.jobId == X then f j else j := by
  simp only [update, mapJobs]
  congr 1
  apply List.map_congr_left
  intro s _
  split <;> rfl

section update

variable {f : Job → Job}

private theorem update_keeps_jobId (hf : ∀ j, j.jobId = X → (f j).jobId = X) (j : Job) :
    (if j.jobId == X then f j else j).jobId = j.jobId := by
  split
  · rename_i hX
    simp only [beq_iff_eq] at hX
    rw [hf j hX, hX]
  · rfl

theorem find?_update_self (hf : ∀ j, j.jobId = X → (f j).jobId = X) :
    (t.update X f).find? X = (t.find? X).map f := by
  rw [update_eq_mapJobs, find?_mapJobs _ (update_keeps_jobId hf)]
  apply Option.map_congr
  intro j hj
  simp [jobId_of_find? hj]

theorem find?_update_of_ne {Y : String} (hf : ∀ j, j.jobId = X → (f j).jobId = X) (hY : Y ≠ X) :
    (t.update X f).find? Y = t.find? Y := by
  rw [update_eq_mapJobs, find?_mapJobs _ (update_keeps_jobId hf)]
  cases hfound : t.find? Y with
  | none => rfl
  | some j => simp [jobId_of_find? hfound, hY]

end update

/-! ### Well-numbered tables -/

/-- The stored identifiers are distinct, and each labels a submission made so far. -/
structure WellNumbered (t : JobTable) : Prop where
  nodup : (t.slots.map (·.job.jobId)).Nodup
  issued : ∀ s ∈ t.slots, ∃ n, n ≤ t.submitted ∧ s.job.jobId = jobLabel n

theorem wellNumbered_empty : ({} : JobTable).WellNumbered :=
  ⟨List.nodup_nil, by simp⟩

theorem find?_of_mem (hnd : (t.slots.map (·.job.jobId)).Nodup) {s : Slot} (hs : s ∈ t.slots) :
    t.find? s.job.jobId = some s.job := by
  obtain ⟨s', hfound⟩ : ∃ s', t.slots.find? (·.job.jobId == s.job.jobId) = some s' :=
    Option.isSome_iff_exists.mp (List.find?_isSome.mpr ⟨s, hs, by simp⟩)
  have hsame : s' = s :=
    List.inj_on_of_nodup_map hnd (List.mem_of_find?_eq_some hfound) hs
      (by simpa using List.find?_some hfound)
  simp [find?, hfound, hsame]

theorem find?_next_label (hw : t.WellNumbered) : t.find? (jobLabel (t.submitted + 1)) = none := by
  rw [find?_eq_none_iff]
  intro s hs hlabel
  obtain ⟨n, hn, hid⟩ := hw.issued s hs
  have := jobLabel_injective (hid.symm.trans hlabel)
  omega

theorem WellNumbered.mapJobs (hw : t.WellNumbered) (h : Job → Job)
    (hid : ∀ j, (h j).jobId = j.jobId) : (t.mapJobs h).WellNumbered where
  nodup := by
    simpa [JobTable.mapJobs, Function.comp_def, hid] using hw.nodup
  issued := by
    intro s hs
    obtain ⟨s₀, hs₀, rfl⟩ := List.mem_map.mp hs
    simpa [hid] using hw.issued s₀ hs₀

theorem WellNumbered.update (hw : t.WellNumbered) {f : Job → Job}
    (hf : ∀ j, j.jobId = X → (f j).jobId = X) : (t.update X f).WellNumbered := by
  rw [update_eq_mapJobs]
  exact hw.mapJobs _ (update_keeps_jobId hf)

/-! ### The reaper's pass -/

section reap

variable {config : QueueConfig} {now : Instant}

/-- A slot list with every job as the reaper leaves it. -/
private abbrev reapedSlots (config : QueueConfig) (now : Instant) (l : List Slot) : List Slot :=
  l.map fun s => { s with job := s.job.reaped config now }

private theorem update_map_of_ne {f : Job → Job} {l : List Slot} (hl : ∀ s ∈ l, s.job.jobId ≠ X) :
    l.map (fun s => if s.job.jobId == X then { s with job := f s.job } else s) = l := by
  calc l.map _ = l.map id := List.map_congr_left fun s hs => by simp [hl s hs]
    _ = l := List.map_id l

theorem update_of_split {u : JobTable} {pre post : List Slot} {s : Slot} (f : Job → Job)
    (hu : u.slots = pre ++ s :: post) (hpre : ∀ s' ∈ pre, s'.job.jobId ≠ s.job.jobId)
    (hpost : ∀ s' ∈ post, s'.job.jobId ≠ s.job.jobId) :
    u.update s.job.jobId f = { u with slots := pre ++ { s with job := f s.job } :: post } := by
  simp only [update, hu, List.map_append, List.map_cons, update_map_of_ne hpre,
    update_map_of_ne hpost, beq_self_eq_true, if_true]

theorem reapSlot_snd {u : JobTable} {pre post : List Slot} {s : Slot} (r : ReapReport)
    (hu : u.slots = pre ++ s :: post) (hpre : ∀ s' ∈ pre, s'.job.jobId ≠ s.job.jobId)
    (hpost : ∀ s' ∈ post, s'.job.jobId ≠ s.job.jobId) :
    (reapSlot config now (r, u) s).2 =
      { u with slots := pre ++ { s with job := s.job.reaped config now } :: post } := by
  unfold reapSlot
  by_cases hlapsed : s.job.lapsed now
  · by_cases hleft : s.job.attempts < config.maxAttempts
    · simp only [Slot.lapsed_eq, hlapsed, Bool.not_true, Bool.false_eq_true, if_false, hleft,
        if_true]
      rw [update_of_split _ hu hpre hpost]
      simp [Job.reaped, hlapsed, hleft]
    · simp only [Slot.lapsed_eq, hlapsed, Bool.not_true, Bool.false_eq_true, if_false, hleft]
      rw [update_of_split _ hu hpre hpost]
      simp [Job.reaped, hlapsed, hleft]
  · have hsame : s.job.reaped config now = s.job := by simp [Job.reaped, hlapsed]
    simp only [Slot.lapsed_eq, hlapsed, Bool.not_false, if_true, hsame]
    rw [← hu]

private theorem foldl_reapSlot (config : QueueConfig) (now : Instant) :
    ∀ (post pre : List Slot) (acc : ReapReport × JobTable),
      ((pre ++ post).map (·.job.jobId)).Nodup → acc.2.slots = reapedSlots config now pre ++ post →
      (post.foldl (reapSlot config now) acc).2 =
        { acc.2 with slots := reapedSlots config now (pre ++ post) }
  | [], pre, acc, _, hacc => by
    rw [List.append_nil] at hacc ⊢
    rw [← hacc]
    rfl
  | s :: post, pre, (r, u), hnd, hacc => by
    have hfresh : s.job.jobId ∉ (pre ++ post).map (·.job.jobId) := by
      have := (List.nodup_middle.mp (by simpa using hnd) : (_ :: _).Nodup)
      simpa using (List.nodup_cons.mp this).1
    have hstep : (reapSlot config now (r, u) s).2 = _ := reapSlot_snd r hacc
      (fun s' hs' hid => by
        obtain ⟨s₀, hs₀, rfl⟩ := List.mem_map.mp hs'
        exact hfresh (List.mem_map.mpr ⟨s₀, List.mem_append_left _ hs₀, by simpa using hid⟩))
      (fun s' hs' hid => hfresh (List.mem_map.mpr ⟨s', List.mem_append_right _ hs', hid⟩))
    rw [List.foldl_cons, foldl_reapSlot config now post (pre ++ [s]) _ (by simpa using hnd)
      (by simp [hstep])]
    simp [hstep]

theorem reap_eq_mapJobs (hnd : (t.slots.map (·.job.jobId)).Nodup) (b : Backend) :
    (t.reap config b now).2 = t.mapJobs (Job.reaped config (b.stamp now)) := by
  have := foldl_reapSlot config (b.stamp now) t.slots [] ({}, t) (by simpa using hnd) (by simp)
  simpa [reap, mapJobs] using this

end reap

/-! ### Purges and submissions -/

theorem find?_purge (hnd : (t.slots.map (·.job.jobId)).Nodup) (config : QueueConfig) (b : Backend)
    (now : Instant) (X : String) :
    (t.purge config b now).2.find? X = (t.find? X).filter fun j => !j.expired config b now := by
  have hkept : ∀ {s}, s ∈ (t.purge config b now).2.slots ↔
      s ∈ t.slots ∧ s.job.expired config b now = false := by
    intro s
    simp [purge]
  cases hfound : t.find? X with
  | none =>
    rw [find?_eq_none_iff] at hfound
    rw [Option.filter_none, find?_eq_none_iff]
    exact fun s hs => hfound s (hkept.mp hs).1
  | some j =>
    obtain ⟨s, hs, rfl⟩ := mem_of_find? hfound
    have hid : s.job.jobId = X := jobId_of_find? hfound
    by_cases hexp : s.job.expired config b now
    · simp only [Option.filter_some, hexp, Bool.not_true, Bool.false_eq_true, if_false]
      rw [find?_eq_none_iff]
      intro s' hs' hid'
      have hsame : s' = s :=
        List.inj_on_of_nodup_map hnd (hkept.mp hs').1 hs (hid'.trans hid.symm)
      have hstays := (hkept.mp hs').2
      rw [hsame, hexp] at hstays
      exact Bool.noConfusion hstays
    · have hnd' : ((t.purge config b now).2.slots.map (·.job.jobId)).Nodup :=
        hnd.sublist (List.filter_sublist.map _)
      simp only [Option.filter_some, hexp, Bool.not_false, if_true]
      rw [← hid]
      exact find?_of_mem hnd' (hkept.mpr ⟨hs, by simpa using hexp⟩)

theorem WellNumbered.purge (hw : t.WellNumbered) (config : QueueConfig) (b : Backend)
    (now : Instant) : (t.purge config b now).2.WellNumbered where
  nodup := hw.nodup.sublist (List.filter_sublist.map _)
  issued := fun s hs => hw.issued s (List.mem_of_mem_filter hs)

end JobTable

/-- The job a submission stores: queued under the label of the `n`-th submission, never
delivered. -/
def NewJob.toJob (new : NewJob) (n : Nat) (submittedAt : Instant) : Job :=
  { jobId := jobLabel n, userId := new.userId, message := new.message, priority := new.priority,
    status := .queued, attempts := 0, submittedAt }

namespace JobTable

variable {t : JobTable} {X : String} {j : Job}

/-- The table after a job is stored in a new last slot under the next label. -/
def append (t : JobTable) (job : Job) : JobTable :=
  { slots := t.slots ++ [⟨t.submitted, job⟩], submitted := t.submitted + 1 }

theorem find?_append (hw : t.WellNumbered) {job : Job}
    (hjob : job.jobId = jobLabel (t.submitted + 1)) (X : String) :
    (t.append job).find? X = if X = job.jobId then some job else t.find? X := by
  simp only [find?, append, List.find?_append, List.find?_cons, List.find?_nil]
  split_ifs with hX
  · subst hX
    have hnone := find?_next_label hw
    rw [← hjob] at hnone
    simp only [find?, Option.map_eq_none_iff] at hnone
    simp [hnone]
  · have hne : (job.jobId == X) = false := by simpa using Ne.symm hX
    cases t.slots.find? (·.job.jobId == X) <;> simp [hne]

theorem WellNumbered.append (hw : t.WellNumbered) {job : Job}
    (hjob : job.jobId = jobLabel (t.submitted + 1)) : (t.append job).WellNumbered where
  nodup := by
    have hfresh := find?_next_label hw
    rw [find?_eq_none_iff] at hfresh
    simp only [JobTable.append, List.map_append, List.map_cons, List.map_nil]
    refine List.nodup_append.mpr ⟨hw.nodup, List.nodup_singleton _, ?_⟩
    intro a ha b hb
    obtain ⟨s, hs, rfl⟩ := List.mem_map.mp ha
    rw [List.mem_singleton] at hb
    exact hb ▸ hjob ▸ hfresh s hs
  issued := by
    intro s hs
    rcases List.mem_append.mp hs with hs | hs
    · obtain ⟨n, hn, hid⟩ := hw.issued s hs
      exact ⟨n, by simp [JobTable.append]; omega, hid⟩
    · rw [List.mem_singleton] at hs
      exact ⟨t.submitted + 1, by simp [JobTable.append], by simp [hs, hjob]⟩

theorem enqueue_eq_ok {config : QueueConfig} {b : Backend} {now : Instant} {new : NewJob}
    {job : Job} {t' : JobTable} (h : t.enqueue config b now new = .ok (job, t')) :
    job = new.toJob (t.submitted + 1) (b.stamp now) ∧ t' = t.append job := by
  unfold enqueue at h
  cases hv : new.validate with
  | error e => simp [hv, bind, Except.bind] at h
  | ok u =>
    simp only [hv, bind, Except.bind] at h
    split at h
    · simp [throw, throwThe, MonadExceptOf.throw] at h
    · simp only [pure, Except.pure, Except.ok.injEq, Prod.mk.injEq] at h
      obtain ⟨rfl, rfl⟩ := h
      exact ⟨rfl, rfl⟩

/-! ### Grants -/

section grants

variable {config : QueueConfig} {b : Backend} {now : Instant}

@[simp] theorem grant_jobId (j : Job) (w : String) (ttl : Duration) :
    (grant j b w ttl now).1.jobId = j.jobId := rfl

theorem dequeue_cases (t : JobTable) (config : QueueConfig) (b : Backend) (now : Instant)
    (ps : List Priority) (w : String) :
    t.dequeue config b now ps w = (none, t) ∨
    ∃ s ∈ t.slots, s.job.status = .queued ∧
      (config.serializePerUser = true → s.job.userId ∉ t.busyUsers) ∧
      t.dequeue config b now ps w = (some (grant s.job b w config.leaseTtl now),
        t.update s.job.jobId fun _ => (grant s.job b w config.leaseTtl now).1) := by
  dsimp only [dequeue]
  generalize hbusy : (if config.serializePerUser then t.busyUsers else []) = busy
  cases hfound : (pollLevels ps).findSome? (t.oldestAt busy) with
  | none => exact .inl rfl
  | some job =>
    obtain ⟨level, -, hlevel⟩ := List.exists_of_findSome?_eq_some hfound
    obtain ⟨s, hs, rfl⟩ := Option.map_eq_some_iff.mp hlevel
    have hfit := List.find?_some hs
    simp only [Bool.and_eq_true, beq_iff_eq, Bool.not_eq_true'] at hfit
    refine .inr ⟨s, List.mem_of_find?_eq_some hs, hfit.1.1, fun hser => ?_, rfl⟩
    simpa [← hbusy, hser] using hfit.2

theorem lease_eq_ok {X w : String} {ttl : Duration} {L : Lease} {t' : JobTable}
    (h : t.lease config b now X w ttl = .ok (L, t')) :
    ∃ j, t.find? X = some j ∧ j.status = .queued ∧
      (config.serializePerUser = true → j.userId ∉ t.busyUsers) ∧
      L = (grant j b w ttl now).2 ∧ t' = t.update X fun _ => (grant j b w ttl now).1 := by
  unfold lease at h
  cases hfound : t.find? X with
  | none => simp [hfound, throw, throwThe, MonadExceptOf.throw] at h
  | some j =>
    refine ⟨j, rfl, ?_⟩
    -- in memory a busy user is refused first, in a database a job that is not queued
    cases b <;> simp only [hfound, throw, throwThe, MonadExceptOf.throw, pure, Except.pure] at h <;>
      by_cases hbusy : config.serializePerUser = true ∧ j.userId ∈ t.busyUsers <;>
      by_cases hqueued : j.status = .queued <;>
      simp [hbusy, hqueued, bind, Except.bind] at h
    all_goals
      obtain ⟨rfl, rfl⟩ := h
      exact ⟨hqueued, fun hser huser => hbusy ⟨hser, huser⟩, rfl, rfl⟩

end grants

/-! ### Renewals and settlements -/

section held

variable {b : Backend} {now : Instant} {L : Lease}

/-- The table honours a lease when the lease's job is stored and holds it. -/
def Honours (t : JobTable) (l : Lease) : Prop := ∃ j, t.find? l.jobId = some j ∧ j.holds l = true

theorem renew_eq_ok {L' : Lease} {t' : JobTable} (h : t.renew b now L = .ok (L', t')) :
    ∃ j, t.find? L.jobId = some j ∧ j.holds L = true ∧
      L' = { L with expiresAt := (b.stamp now).add L.ttl } ∧
      t' = t.update L.jobId fun j =>
        { j with leaseExpiresAt := some (b.stamp ((b.stamp now).add L.ttl)) } := by
  unfold renew at h
  split at h
  · rename_i j hfound
    split at h
    · rename_i hholds
      simp only [Except.ok.injEq, Prod.mk.injEq] at h
      obtain ⟨rfl, rfl⟩ := h
      exact ⟨j, hfound, hholds, rfl, rfl⟩
    · cases h
  · cases h

theorem renew_ok_iff : (∃ r, t.renew b now L = .ok r) ↔ t.Honours L := by
  constructor
  · rintro ⟨⟨L', t'⟩, h⟩
    obtain ⟨j, hfound, hholds, -⟩ := renew_eq_ok h
    exact ⟨j, hfound, hholds⟩
  · rintro ⟨j, hfound, hholds⟩
    simp [renew, hfound, hholds]

theorem renew_eq_error (hn : ¬ t.Honours L) : t.renew b now L = .error (t.lostOrMissing L) := by
  unfold renew
  split
  · rename_i j hfound
    rw [if_neg fun hholds => hn ⟨j, hfound, hholds⟩]
  · rename_i hfound
    simp [lostOrMissing, hfound]

variable {status : JobStatus} {result : Option JobResult} {error : Option JobFailure}

theorem settle_eq_ok {job : Job} {t' : JobTable}
    (h : t.settle b now L status result error = .ok (job, t')) :
    ∃ j, t.find? L.jobId = some j ∧ j.holds L = true ∧
      job = { j with status, result := b.settled result j.result, error := b.settled error j.error,
                     completedAt := some (b.stamp now), leaseOwner := none,
                     leaseExpiresAt := none } ∧
      t' = t.update L.jobId fun _ => job := by
  unfold settle at h
  split at h
  · rename_i j hfound
    split at h
    · rename_i hholds
      simp only [Except.ok.injEq, Prod.mk.injEq] at h
      obtain ⟨rfl, rfl⟩ := h
      exact ⟨j, hfound, hholds, rfl, rfl⟩
    · cases h
  · cases h

theorem settle_ok_iff : (∃ r, t.settle b now L status result error = .ok r) ↔ t.Honours L := by
  constructor
  · rintro ⟨⟨job, t'⟩, h⟩
    obtain ⟨j, hfound, hholds, -⟩ := settle_eq_ok h
    exact ⟨j, hfound, hholds⟩
  · rintro ⟨j, hfound, hholds⟩
    simp [settle, hfound, hholds]

theorem settle_eq_error (hn : ¬ t.Honours L) :
    t.settle b now L status result error = .error (t.lostOrMissing L) := by
  unfold settle
  split
  · rename_i j hfound
    rw [if_neg fun hholds => hn ⟨j, hfound, hholds⟩]
  · rename_i hfound
    simp [lostOrMissing, hfound]

end held

end JobTable

end ResilientAgent
