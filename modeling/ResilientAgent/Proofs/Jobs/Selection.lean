import ResilientAgent.Proofs.Jobs.Machine

/-!
# Which job a dequeue takes

A dequeue polls levels in order: the ones it is given, or every level from the most urgent when
it is given none. At the first level that has a job it may take, it takes the one submitted
first. A job it may take (`JobTable.Eligible`) is queued and, when jobs are serialised per user,
belongs to a user with no job in progress.

The table keeps its slots in submission order, each numbered once, when it is submitted
(`JobTable.Ordered`): updates and the reaper change jobs in their slots, purges drop slots, and
a submission adds one at the end. So the first fitting slot is the fitting slot with the least
number, and a job the reaper sends back to the queue keeps its place.
`dequeue_takes_oldest_of_first_level` says what a dequeue returns on any reachable table, and
that dequeues which empty a queue whose jobs belong to distinct users hand the jobs out most
urgent first and, at one level, in submission order (`JobTable.drain_in_priority_order`).
-/

namespace ResilientAgent

/-- A slot comes before another in draining order: its job is more urgent, or as urgent and
submitted earlier. -/
def Slot.Precedes (s s' : Slot) : Prop :=
  s'.job.priority.level < s.job.priority.level ∨
    (s.job.priority = s'.job.priority ∧ s.seq < s'.seq)

namespace Priority

theorem levels_allDescending :
    allDescending.map (·.level) = [9, 8, 7, 6, 5, 4, 3, 2, 1, 0] := by
  decide

theorem allDescending_pairwise : allDescending.Pairwise fun a b => b.level < a.level := by
  decide

theorem eq_of_level_eq {p q : Priority} (h : p.level = q.level) : p = q := by
  cases p
  cases q
  simp_all

theorem mem_allDescending (p : Priority) : p ∈ allDescending := by
  have hlevel : p.level ∈ allDescending.map (·.level) := by
    rw [levels_allDescending]
    have := p.level_le
    simp only [List.mem_cons, List.not_mem_nil]
    omega
  obtain ⟨q, hq, hqp⟩ := List.mem_map.mp hlevel
  exact eq_of_level_eq hqp ▸ hq

theorem le_of_find?_allDescending {P : Priority → Bool} {p q : Priority}
    (hfind : allDescending.find? P = some p) (hq : P q = true) : q.level ≤ p.level := by
  obtain ⟨-, before, after, hsplit, hbefore⟩ := List.find?_eq_some_iff_append.mp hfind
  have hmem := mem_allDescending q
  rw [hsplit] at hmem
  rcases List.mem_append.mp hmem with hin | hin
  · have hnot := hbefore q hin
    simp [hq] at hnot
  · rcases List.mem_cons.mp hin with rfl | hin
    · exact Nat.le_refl _
    · -- the levels after `p` are all below it
      have hdesc := allDescending_pairwise
      rw [hsplit] at hdesc
      exact Nat.le_of_lt ((List.pairwise_cons.mp (List.pairwise_append.mp hdesc).2.1).1 q hin)

end Priority

namespace JobTable

variable {t : JobTable} {config : QueueConfig} {b : Backend} {now : Instant}

/-- A job a dequeue may take: queued and, when jobs are serialised per user, of a user with no
job in progress. -/
def Eligible (t : JobTable) (config : QueueConfig) (j : Job) : Prop :=
  j.status = .queued ∧ (config.serializePerUser = true → j.userId ∉ t.busyUsers)

instance decidableEligible (t : JobTable) (config : QueueConfig) (j : Job) :
    Decidable (t.Eligible config j) :=
  inferInstanceAs (Decidable (_ ∧ _))

/-- Whether a slot holds a job a dequeue may take at `level`. -/
def fitsAt (t : JobTable) (config : QueueConfig) (level : Priority) (s : Slot) : Bool :=
  decide (t.Eligible config s.job) && s.job.priority == level

/-- Whether some job a dequeue may take waits at `level`. -/
def hasEligibleAt (t : JobTable) (config : QueueConfig) (level : Priority) : Bool :=
  t.slots.any (t.fitsAt config level)

theorem oldestAt_eq (t : JobTable) (config : QueueConfig) (level : Priority) :
    t.oldestAt (if config.serializePerUser then t.busyUsers else []) level =
      (t.slots.find? (t.fitsAt config level)).map (·.job) := by
  unfold oldestAt
  congr 2
  funext s
  cases hser : config.serializePerUser <;>
    by_cases hq : s.job.status = .queued <;>
    simp [fitsAt, Eligible, hser, hq, Bool.and_comm]

/-! ## Slots in submission order -/

/-- The slots are in submission order, each numbered by the submissions made before it. -/
structure Ordered (t : JobTable) : Prop where
  seq_lt : (t.slots.map (·.seq)).Pairwise (· < ·)
  label_seq : ∀ s ∈ t.slots, s.job.jobId = jobLabel (s.seq + 1)

theorem ordered_empty : ({} : JobTable).Ordered := ⟨List.Pairwise.nil, by simp⟩

theorem Ordered.mapJobs (ho : t.Ordered) (h : Job → Job) (hid : ∀ j, (h j).jobId = j.jobId) :
    (t.mapJobs h).Ordered where
  seq_lt := by simpa [JobTable.mapJobs, Function.comp_def] using ho.seq_lt
  label_seq := by
    intro s hs
    obtain ⟨s₀, hs₀, rfl⟩ := List.mem_map.mp hs
    simpa [hid] using ho.label_seq s₀ hs₀

theorem Ordered.purge (ho : t.Ordered) (config : QueueConfig) (b : Backend) (now : Instant) :
    (t.purge config b now).2.Ordered where
  seq_lt := ho.seq_lt.sublist (List.filter_sublist.map _)
  label_seq s hs := ho.label_seq s (List.mem_of_mem_filter hs)

theorem Ordered.append (ho : t.Ordered) (hw : t.WellNumbered) {job : Job}
    (hjob : job.jobId = jobLabel (t.submitted + 1)) : (t.append job).Ordered where
  seq_lt := by
    simp only [JobTable.append, List.map_append, List.map_cons, List.map_nil]
    refine List.pairwise_append.mpr ⟨ho.seq_lt, List.pairwise_singleton _ _, ?_⟩
    intro a ha c hc
    rw [List.mem_singleton] at hc
    obtain ⟨s, hs, rfl⟩ := List.mem_map.mp ha
    subst hc
    obtain ⟨n, hn, hid⟩ := hw.issued s hs
    have := jobLabel_injective ((ho.label_seq s hs).symm.trans hid)
    omega
  label_seq := by
    intro s hs
    rcases List.mem_append.mp hs with hs | hs
    · exact ho.label_seq s hs
    · rw [List.mem_singleton] at hs
      subst hs
      exact hjob

theorem update_eq_mapJobs_keeping (t : JobTable) {X : String} {f : Job → Job}
    (hf : ∀ j, j.jobId = X → (f j).jobId = X) :
    ∃ h : Job → Job, (∀ j, (h j).jobId = j.jobId) ∧ t.update X f = t.mapJobs h := by
  refine ⟨fun j => if j.jobId == X then f j else j, fun j => ?_, update_eq_mapJobs t X f⟩
  by_cases hX : j.jobId = X
  · simp [hX, hf j hX]
  · simp [hX]

theorem settle_snd_eq_mapJobs {l : Lease} {status : JobStatus} {result : Option JobResult}
    {error : Option JobFailure} {job : Job} {t' : JobTable}
    (h : t.settle b now l status result error = .ok (job, t')) :
    ∃ g : Job → Job, (∀ j, (g j).jobId = j.jobId) ∧ t' = t.mapJobs g := by
  obtain ⟨j, hfound, -, rfl, rfl⟩ := settle_eq_ok h
  exact t.update_eq_mapJobs_keeping fun _ _ => (jobId_of_find? hfound : j.jobId = l.jobId)

theorem exec_snd_cases (config : QueueConfig) (b : Backend) (now : Instant) (hw : t.WellNumbered)
    (c : QueueCall) :
    (t.exec config b now c).2 = t ∨
      (∃ h : Job → Job, (∀ j, (h j).jobId = j.jobId) ∧ (t.exec config b now c).2 = t.mapJobs h) ∨
      (t.exec config b now c).2 = (t.purge config b now).2 ∨
      ∃ job : Job, job.jobId = jobLabel (t.submitted + 1) ∧
        (t.exec config b now c).2 = t.append job := by
  cases c with
  | enqueue new =>
    cases h : t.enqueue config b now new with
    | error e => exact .inl (by simp only [exec, commit, h])
    | ok p =>
      obtain ⟨job, t'⟩ := p
      obtain ⟨rfl, rfl⟩ := enqueue_eq_ok h
      exact .inr (.inr (.inr ⟨new.toJob (t.submitted + 1) (b.stamp now), rfl,
        by simp only [exec, commit, h]⟩))
  | get => exact .inl rfl
  | dequeue ps w =>
    rcases dequeue_cases t config b now ps w with hnone | ⟨s, -, -, -, hdeq⟩
    · exact .inl (by simp only [exec, hnone])
    · obtain ⟨h, hid, heq⟩ := t.update_eq_mapJobs_keeping (X := s.job.jobId)
        (f := fun _ => (grant s.job b w config.leaseTtl now).1) fun _ _ => rfl
      exact .inr (.inl ⟨h, hid, by simp only [exec, hdeq, heq]⟩)
  | lease X w ttl =>
    cases h : t.lease config b now X w ttl with
    | error e => exact .inl (by simp only [exec, commit, h])
    | ok p =>
      obtain ⟨L, t'⟩ := p
      obtain ⟨j, hfound, -, -, -, rfl⟩ := lease_eq_ok h
      obtain ⟨g, hid, heq⟩ := t.update_eq_mapJobs_keeping (X := X)
        (f := fun _ => (grant j b w ttl now).1) fun _ _ => by
          show j.jobId = X
          exact jobId_of_find? hfound
      exact .inr (.inl ⟨g, hid, by simp only [exec, commit, h, heq]⟩)
  | renew l =>
    cases h : t.renew b now l with
    | error e => exact .inl (by simp only [exec, commit, h])
    | ok p =>
      obtain ⟨L', t'⟩ := p
      obtain ⟨j, -, -, -, rfl⟩ := renew_eq_ok h
      obtain ⟨g, hid, heq⟩ := t.update_eq_mapJobs_keeping (X := l.jobId)
        (f := fun j => { j with leaseExpiresAt := some (b.stamp ((b.stamp now).add l.ttl)) })
        fun _ hX => hX
      exact .inr (.inl ⟨g, hid, by simp only [exec, commit, h, heq]⟩)
  | complete l r =>
    cases h : t.complete b now l r with
    | error e => exact .inl (by simp only [exec, commit, h])
    | ok p =>
      obtain ⟨job, t'⟩ := p
      obtain ⟨g, hid, heq⟩ := settle_snd_eq_mapJobs h
      exact .inr (.inl ⟨g, hid, by simp only [exec, commit, h, heq]⟩)
  | fail l f =>
    cases h : t.fail b now l f with
    | error e => exact .inl (by simp only [exec, commit, h])
    | ok p =>
      obtain ⟨job, t'⟩ := p
      obtain ⟨g, hid, heq⟩ := settle_snd_eq_mapJobs h
      exact .inr (.inl ⟨g, hid, by simp only [exec, commit, h, heq]⟩)
  | reap =>
    exact .inr (.inl ⟨_, Job.reaped_jobId config (b.stamp now),
      by simp only [exec]; exact reap_eq_mapJobs hw.nodup b⟩)
  | purge => exact .inr (.inr (.inl rfl))
  | depth => exact .inl rfl

theorem Ordered.exec (hw : t.WellNumbered) (ho : t.Ordered) (c : QueueCall) :
    (t.exec config b now c).2.Ordered := by
  rcases exec_snd_cases config b now hw c with
    heq | ⟨h, hid, heq⟩ | heq | ⟨job, hjob, heq⟩ <;> rw [heq]
  · exact ho
  · exact ho.mapJobs h hid
  · exact ho.purge config b now
  · exact ho.append hw hjob

theorem Reachable.ordered (h : Reachable config b t) : t.Ordered := by
  induction h with
  | empty => exact ordered_empty
  | exec now c hreach ih => exact ih.exec hreach.wellNumbered c

/-! ## The slot a dequeue takes -/

theorem least_of_find?_eq_some {l : List Slot} (hl : (l.map (·.seq)).Pairwise (· < ·))
    {p : Slot → Bool} {s : Slot} (hfind : l.find? p = some s) :
    s ∈ l ∧ p s = true ∧ ∀ s' ∈ l, p s' = true → s.seq ≤ s'.seq := by
  obtain ⟨hs, before, after, hsplit, hbefore⟩ := List.find?_eq_some_iff_append.mp hfind
  refine ⟨List.mem_of_find?_eq_some hfind, hs, fun s' hs' hp' => ?_⟩
  rw [hsplit] at hs'
  rcases List.mem_append.mp hs' with hin | hin
  · have hnot := hbefore s' hin
    simp [hp'] at hnot
  · rcases List.mem_cons.mp hin with rfl | hin
    · exact Nat.le_refl _
    · -- the slots after the first fitting one carry larger numbers
      rw [hsplit] at hl
      simp only [List.map_append, List.map_cons] at hl
      have hafter := (List.pairwise_cons.mp (List.pairwise_append.mp hl).2.1).1
      exact Nat.le_of_lt (hafter s'.seq (List.mem_map_of_mem hin))

theorem find?_eq_some_iff_least {l : List Slot} (hl : (l.map (·.seq)).Pairwise (· < ·))
    {p : Slot → Bool} {s : Slot} :
    l.find? p = some s ↔ s ∈ l ∧ p s = true ∧ ∀ s' ∈ l, p s' = true → s.seq ≤ s'.seq := by
  refine ⟨least_of_find?_eq_some hl, fun ⟨hs, hp, hleast⟩ => ?_⟩
  obtain ⟨x, hx⟩ : ∃ x, l.find? p = some x :=
    Option.isSome_iff_exists.mp (List.find?_isSome.mpr ⟨s, hs, hp⟩)
  obtain ⟨hxl, hxp, hxleast⟩ := least_of_find?_eq_some hl hx
  have hseq : x.seq = s.seq := Nat.le_antisymm (hxleast s hs hp) (hleast x hxl hxp)
  have hnodup : (l.map (·.seq)).Nodup := hl.imp Nat.ne_of_lt
  rw [hx, List.inj_on_of_nodup_map hnodup hxl hs hseq]

theorem findSome?_eq_bind_find? {α β : Type} (l : List α) (f : α → Option β) :
    l.findSome? f = (l.find? fun a => (f a).isSome).bind f := by
  induction l with
  | nil => rfl
  | cons a l ih => cases h : f a <;> simp [h, ih]

theorem isSome_find?_fitsAt (t : JobTable) (config : QueueConfig) (level : Priority) :
    ((t.slots.find? (t.fitsAt config level)).map (·.job)).isSome = t.hasEligibleAt config level := by
  simp only [Option.isSome_map]
  exact Bool.eq_iff_iff.mpr (by simp [hasEligibleAt, List.find?_isSome, List.any_eq_true])

theorem dequeue_fst_eq (t : JobTable) (config : QueueConfig) (b : Backend) (now : Instant)
    (ps : List Priority) (w : String) :
    (t.dequeue config b now ps w).1 =
      (((pollLevels ps).find? (t.hasEligibleAt config)).bind fun level =>
        (t.slots.find? (t.fitsAt config level)).map (·.job)).map
        fun job => grant job b w config.leaseTtl now := by
  have hlevels : ((pollLevels ps).find? fun level =>
      ((t.slots.find? (t.fitsAt config level)).map (·.job)).isSome) =
      (pollLevels ps).find? (t.hasEligibleAt config) := by
    congr 1
    funext level
    exact isSome_find?_fitsAt t config level
  unfold dequeue
  simp only [oldestAt_eq, findSome?_eq_bind_find?, hlevels]
  cases (pollLevels ps).find? (t.hasEligibleAt config) with
  | none => rfl
  | some level =>
    simp only [Option.bind_some]
    cases t.slots.find? (t.fitsAt config level) <;> rfl

theorem dequeue_fst_eq_none_iff (t : JobTable) (config : QueueConfig) (b : Backend)
    (now : Instant) (ps : List Priority) (w : String) :
    (t.dequeue config b now ps w).1 = none ↔
      ∀ level ∈ pollLevels ps, t.hasEligibleAt config level = false := by
  rw [dequeue_fst_eq, Option.map_eq_none_iff, Option.bind_eq_none_iff]
  constructor
  · intro hnone level hlevel
    cases hfind : (pollLevels ps).find? (t.hasEligibleAt config) with
    | none => simpa using List.find?_eq_none.mp hfind level hlevel
    | some first =>
      have hfirst := List.find?_some hfind
      rw [← isSome_find?_fitsAt] at hfirst
      obtain ⟨job, hjob⟩ := Option.isSome_iff_exists.mp hfirst
      exact absurd (hnone first hfind) (by simp [hjob])
  · intro hnone first hfind
    have hfirst := List.find?_some hfind
    rw [hnone first (List.mem_of_find?_eq_some hfind)] at hfirst
    cases hfirst

theorem dequeue_fst_eq_some_iff (ho : t.Ordered) (ps : List Priority) (w : String) (job : Job)
    (lease : Lease) :
    (t.dequeue config b now ps w).1 = some (job, lease) ↔
      ∃ s ∈ t.slots, t.Eligible config s.job ∧
        (pollLevels ps).find? (t.hasEligibleAt config) = some s.job.priority ∧
        (∀ s' ∈ t.slots, t.Eligible config s'.job → s'.job.priority = s.job.priority →
          s.seq ≤ s'.seq) ∧
        (job, lease) = grant s.job b w config.leaseTtl now := by
  have hfits : ∀ s level, t.fitsAt config level s = true ↔
      t.Eligible config s.job ∧ s.job.priority = level := by
    intro s level
    simp [fitsAt]
  rw [dequeue_fst_eq]
  constructor
  · intro hdeq
    obtain ⟨job₀, hjob₀, hgrant⟩ := Option.map_eq_some_iff.mp hdeq
    obtain ⟨level, hlevel, hfound⟩ := Option.bind_eq_some_iff.mp hjob₀
    obtain ⟨s, hs, rfl⟩ := Option.map_eq_some_iff.mp hfound
    obtain ⟨hmem, hfit, hleast⟩ := (find?_eq_some_iff_least ho.seq_lt).mp hs
    obtain ⟨helig, rfl⟩ := (hfits s level).mp hfit
    exact ⟨s, hmem, helig, hlevel, fun s' hs' helig' hlevel' =>
      hleast s' hs' ((hfits s' _).mpr ⟨helig', hlevel'⟩), hgrant.symm⟩
  · rintro ⟨s, hmem, helig, hlevel, hleast, hgrant⟩
    have hfound : t.slots.find? (t.fitsAt config s.job.priority) = some s :=
      (find?_eq_some_iff_least ho.seq_lt).mpr ⟨hmem, (hfits s _).mpr ⟨helig, rfl⟩,
        fun s' hs' hfit' => by
          obtain ⟨helig', hlevel'⟩ := (hfits s' _).mp hfit'
          exact hleast s' hs' helig' hlevel'⟩
    simp [hlevel, hfound, hgrant]

theorem dequeue_snd_of_fst_eq_some {ps : List Priority} {w : String} {job : Job} {lease : Lease}
    (h : (t.dequeue config b now ps w).1 = some (job, lease)) :
    (t.dequeue config b now ps w).2 = t.update job.jobId fun _ => job := by
  rcases dequeue_cases t config b now ps w with hnone | ⟨s, -, -, -, hdeq⟩
  · rw [hnone] at h
    cases h
  · rw [hdeq] at h ⊢
    obtain ⟨rfl, -⟩ := Prod.mk.inj (Option.some.inj h)
    rfl

/-! ## Draining a queue -/

/-- The jobs handed out by dequeues of every level, one after another, each made at its own
instant by its own worker. -/
def drain (t : JobTable) (config : QueueConfig) (b : Backend) :
    List (Instant × String) → List Job
  | [] => []
  | (now, w) :: polls =>
    match t.dequeue config b now [] w with
    | (some (job, _), t') => job :: t'.drain config b polls
    | (none, t') => t'.drain config b polls

/-- The queued slots. -/
def queuedSlots (t : JobTable) : List Slot := t.slots.filter (·.job.status == .queued)

theorem depth_eq_length_queuedSlots (t : JobTable) : t.depth = t.queuedSlots.length := rfl

theorem eligible_of_distinct_users (husers : (t.slots.map (·.job.userId)).Nodup) {s : Slot}
    (hs : s ∈ t.slots) (hqueued : s.job.status = .queued) : t.Eligible config s.job := by
  refine ⟨hqueued, fun _ hbusy => ?_⟩
  obtain ⟨j, hj, huser⟩ := List.mem_map.mp hbusy
  obtain ⟨hj, hproc⟩ := List.mem_filter.mp hj
  have hsame : j = s := List.inj_on_of_nodup_map husers hj hs huser
  subst hsame
  simp [hqueued] at hproc

theorem filter_queued_map_replace (l : List Slot) (X : String) (job : Job)
    (hjob : job.status ≠ .queued) :
    (l.map fun a => if a.job.jobId == X then { a with job := job } else a).filter
        (·.job.status == .queued) =
      (l.filter (·.job.status == .queued)).filter (·.job.jobId != X) := by
  induction l with
  | nil => rfl
  | cons a l ih =>
    by_cases hX : a.job.jobId = X <;> by_cases hq : a.job.status = .queued <;> simp_all

theorem queuedSlots_update_grant (s : Slot) (w : String) (ttl : Duration) :
    (t.update s.job.jobId fun _ => (grant s.job b w ttl now).1).queuedSlots =
      t.queuedSlots.filter (·.job.jobId != s.job.jobId) :=
  filter_queued_map_replace t.slots s.job.jobId _ (by simp [grant])

theorem queuedSlots_perm_cons (hw : t.WellNumbered) {s : Slot} (hs : s ∈ t.queuedSlots) :
    t.queuedSlots.Perm (s :: t.queuedSlots.filter (·.job.jobId != s.job.jobId)) := by
  have hnodup : (t.queuedSlots.map (·.job.jobId)).Nodup :=
    hw.nodup.sublist (List.filter_sublist.map _)
  have hone : t.queuedSlots.filter (·.job.jobId == s.job.jobId) = [s] := by
    have hall : ∀ x ∈ t.queuedSlots.filter (·.job.jobId == s.job.jobId), x = s := by
      intro x hx
      obtain ⟨hxq, hxid⟩ := List.mem_filter.mp hx
      exact List.inj_on_of_nodup_map hnodup hxq hs (by simpa using hxid)
    have hnd : (t.queuedSlots.filter (·.job.jobId == s.job.jobId)).Nodup :=
      (List.Nodup.of_map _ hnodup).filter _
    have hmem : s ∈ t.queuedSlots.filter (·.job.jobId == s.job.jobId) :=
      List.mem_filter.mpr ⟨hs, by simp⟩
    cases hf : t.queuedSlots.filter (·.job.jobId == s.job.jobId) with
    | nil => rw [hf] at hmem; cases hmem
    | cons x rest =>
      rw [hf] at hall hnd
      have hx : x = s := hall x (List.mem_cons_self ..)
      subst hx
      have hrest : rest = [] := List.eq_nil_iff_forall_not_mem.mpr fun y hy =>
        (List.nodup_cons.mp hnd).1 (hall y (List.mem_cons_of_mem _ hy) ▸ hy)
      rw [hrest]
  have hsplit := List.filter_append_perm (·.job.jobId == s.job.jobId) t.queuedSlots
  rw [hone] at hsplit
  exact hsplit.symm

theorem precedes_of_dequeue (hreach : Reachable config b t)
    (husers : (t.slots.map (·.job.userId)).Nodup) {s : Slot} (hs : s ∈ t.slots)
    (hlevel : (pollLevels []).find? (t.hasEligibleAt config) = some s.job.priority)
    (hleast : ∀ s' ∈ t.slots, t.Eligible config s'.job → s'.job.priority = s.job.priority →
      s.seq ≤ s'.seq)
    {d : Slot} (hd : d ∈ t.queuedSlots) (hne : d.job.jobId ≠ s.job.jobId) : s.Precedes d := by
  obtain ⟨hdmem, hdqueued⟩ := List.mem_filter.mp hd
  have helig : t.Eligible config d.job :=
    eligible_of_distinct_users husers hdmem (by simpa using hdqueued)
  have hat : t.hasEligibleAt config d.job.priority = true :=
    List.any_eq_true.mpr ⟨d, hdmem, by simp [fitsAt, helig]⟩
  have hle : d.job.priority.level ≤ s.job.priority.level :=
    Priority.le_of_find?_allDescending (by simpa [pollLevels] using hlevel) hat
  rcases Nat.lt_or_eq_of_le hle with hlt | heq
  · exact .inl hlt
  · have hprio : s.job.priority = d.job.priority := Priority.eq_of_level_eq heq.symm
    have hseq := hleast d hdmem helig hprio.symm
    have hord := hreach.ordered
    have hseq_ne : s.seq ≠ d.seq := fun hsame => hne (by
      rw [hord.label_seq d hdmem, hord.label_seq s hs, hsame])
    exact .inr ⟨hprio, Nat.lt_of_le_of_ne hseq hseq_ne⟩

/-- Dequeues of every level that drain a queue whose jobs belong to distinct users hand out every
queued job once, most urgent first and, at one level, in submission order. -/
theorem drain_in_priority_order :
    ∀ (polls : List (Instant × String)) {t : JobTable}, Reachable config b t →
      (t.slots.map (·.job.userId)).Nodup → t.depth ≤ polls.length →
      ∃ D : List Slot, (t.drain config b polls).map (·.jobId) = D.map (·.job.jobId) ∧
        D.Perm t.queuedSlots ∧ D.Pairwise Slot.Precedes
  | [], t, _, _, henough => by
    have hempty : t.queuedSlots = [] := List.eq_nil_of_length_eq_zero (by
      rw [← depth_eq_length_queuedSlots]
      simpa using henough)
    exact ⟨[], rfl, by rw [hempty], List.Pairwise.nil⟩
  | (now, w) :: polls, t, hreach, husers, henough => by
    have hord := hreach.ordered
    cases hdeq : (t.dequeue config b now [] w).1 with
    | none =>
      have hsnd : (t.dequeue config b now [] w).2 = t := by
        rcases dequeue_cases t config b now [] w with hnone | ⟨s, -, -, -, hd⟩
        · rw [hnone]
        · rw [hd] at hdeq
          cases hdeq
      have hempty : t.queuedSlots = [] := by
        rw [List.eq_nil_iff_forall_not_mem]
        intro s hs
        obtain ⟨hsmem, hsqueued⟩ := List.mem_filter.mp hs
        have helig : t.Eligible config s.job :=
          eligible_of_distinct_users husers hsmem (by simpa using hsqueued)
        have hnone := (dequeue_fst_eq_none_iff t config b now [] w).mp hdeq s.job.priority
          (Priority.mem_allDescending _)
        have hat : t.hasEligibleAt config s.job.priority = true :=
          List.any_eq_true.mpr ⟨s, hsmem, by simp [fitsAt, helig]⟩
        rw [hnone] at hat
        cases hat
      have hdrain : t.drain config b ((now, w) :: polls) = t.drain config b polls := by
        simp only [drain]
        rw [show t.dequeue config b now [] w = (none, t) from Prod.ext hdeq hsnd]
      obtain ⟨D, hids, hperm, hpw⟩ := drain_in_priority_order polls hreach husers (by
        rw [depth_eq_length_queuedSlots, hempty]
        exact Nat.zero_le _)
      exact ⟨D, by rw [hdrain, hids], hperm, hpw⟩
    | some p =>
      obtain ⟨job, lease⟩ := p
      obtain ⟨s, hs, helig, hlevel, hleast, hgrant⟩ := (dequeue_fst_eq_some_iff hord [] w job lease).mp hdeq
      have hjob : job = (grant s.job b w config.leaseTtl now).1 := congrArg Prod.fst hgrant
      have hid : job.jobId = s.job.jobId := by rw [hjob]; rfl
      have hsnd := dequeue_snd_of_fst_eq_some hdeq
      rw [hid] at hsnd
      set t' := t.update s.job.jobId fun _ => job with ht'
      have hreach' : Reachable config b t' := by
        have := hreach.exec now (.dequeue [] w)
        simpa [exec, hsnd] using this
      have husers' : (t'.slots.map (·.job.userId)).Nodup := by
        have hmap : t'.slots.map (·.job.userId) = t.slots.map (·.job.userId) := by
          simp only [ht', update, List.map_map]
          apply List.map_congr_left
          intro s' hs'
          by_cases hX : s'.job.jobId = s.job.jobId
          · -- the leased slot is `s` itself, whose user the lease keeps
            have hsame : s' = s := List.inj_on_of_nodup_map hreach.wellNumbered.nodup hs' hs hX
            simp [hsame, hjob, grant]
          · simp [hX]
        rw [hmap]
        exact husers
      have hqueued : t'.queuedSlots = t.queuedSlots.filter (·.job.jobId != s.job.jobId) := by
        rw [ht', hjob]
        exact queuedSlots_update_grant s w config.leaseTtl
      have hsq : s ∈ t.queuedSlots := List.mem_filter.mpr ⟨hs, by simp [helig.1]⟩
      have hperm := queuedSlots_perm_cons hreach.wellNumbered hsq
      have henough' : t'.depth ≤ polls.length := by
        have hlen := hperm.length_eq
        rw [depth_eq_length_queuedSlots, hqueued]
        rw [depth_eq_length_queuedSlots] at henough
        simp only [List.length_cons] at hlen henough
        omega
      obtain ⟨D, hids, hperm', hpw⟩ := drain_in_priority_order polls hreach' husers' henough'
      have hdrain : t.drain config b ((now, w) :: polls) = job :: t'.drain config b polls := by
        simp only [drain]
        rw [show t.dequeue config b now [] w = (some (job, lease), t') from Prod.ext hdeq hsnd]
      refine ⟨s :: D, ?_, ?_, ?_⟩
      · rw [hdrain, List.map_cons, List.map_cons, hids, hid]
      · rw [hqueued] at hperm'
        exact (hperm'.cons s).trans hperm.symm
      · refine List.pairwise_cons.mpr ⟨fun d hd => ?_, hpw⟩
        have hd' := hperm'.subset hd
        rw [hqueued] at hd'
        obtain ⟨hdq, hdne⟩ := List.mem_filter.mp hd'
        exact precedes_of_dequeue hreach husers hs hlevel hleast hdq (by simpa using hdne)

end JobTable

/-- On every reachable queue, a dequeue leases the oldest job it may take (queued and, when jobs
are serialised per user, of a user with no job in progress) at the first polled level that has
one, every level from the most urgent when none is given, and takes nothing exactly when no
polled level has one. Slots are numbered once, at submission, and kept in that order, so a job
sent back to the queue keeps its place. Dequeues that drain a queue whose jobs belong to distinct
users hand out every queued job once, most urgent first and, at one level, in submission order. -/
theorem dequeue_takes_oldest_of_first_level {config : QueueConfig} {b : Backend} {t : JobTable}
    (hreach : JobTable.Reachable config b t) :
    (∀ (now : Instant) (ps : List Priority) (w : String),
      ((t.dequeue config b now ps w).1 = none ↔
        ∀ level ∈ pollLevels ps, t.hasEligibleAt config level = false) ∧
      ∀ (job : Job) (lease : Lease), (t.dequeue config b now ps w).1 = some (job, lease) ↔
        ∃ s ∈ t.slots, t.Eligible config s.job ∧
          (pollLevels ps).find? (t.hasEligibleAt config) = some s.job.priority ∧
          (∀ s' ∈ t.slots, t.Eligible config s'.job → s'.job.priority = s.job.priority →
            s.seq ≤ s'.seq) ∧
          (job, lease) = JobTable.grant s.job b w config.leaseTtl now) ∧
    (t.slots.map (·.seq)).Pairwise (· < ·) ∧
    (∀ s ∈ t.slots, s.job.jobId = jobLabel (s.seq + 1)) ∧
    ((t.slots.map (·.job.userId)).Nodup → ∀ polls : List (Instant × String),
      t.depth ≤ polls.length →
      ∃ D : List Slot, (t.drain config b polls).map (·.jobId) = D.map (·.job.jobId) ∧
        D.Perm t.queuedSlots ∧ D.Pairwise Slot.Precedes) := by
  have hord := hreach.ordered
  refine ⟨fun now ps w => ⟨JobTable.dequeue_fst_eq_none_iff t config b now ps w,
    fun job lease => JobTable.dequeue_fst_eq_some_iff hord ps w job lease⟩,
    hord.seq_lt, hord.label_seq, fun husers polls henough =>
      JobTable.drain_in_priority_order polls hreach husers henough⟩

/-- Four users each submit one job, at levels 1, 5, 1 and 5. -/
def fourUsersAtTwoLevels : List (QueueCall × Instant) :=
  [("a", 1), ("b", 5), ("c", 1), ("d", 5)].map fun (user, level) =>
    (.enqueue { userId := user, message := "m", priority := (Priority.new level).toOption.getD default },
     Instant.scriptEpoch)

/-- Four dequeues drain the four jobs, both jobs at level 5 before both at level 1. -/
example : ((({} : JobTable).run {} .memory fourUsersAtTwoLevels).drain {} .memory
    (List.replicate 4 (Instant.scriptEpoch, "w"))).map (·.jobId) =
      ["job-2", "job-4", "job-1", "job-3"] := by
  decide

/-- The queue of the four submissions is reachable, its jobs belong to distinct users, and four
dequeues drain it in draining order. -/
theorem dequeue_takes_oldest_of_first_level_on_four_jobs :
    JobTable.Reachable {} .memory (({} : JobTable).run {} .memory fourUsersAtTwoLevels) ∧
      ((({} : JobTable).run {} .memory fourUsersAtTwoLevels).slots.map (·.job.userId)).Nodup ∧
      (({} : JobTable).run {} .memory fourUsersAtTwoLevels).depth ≤
        (List.replicate 4 (Instant.scriptEpoch, "w")).length ∧
      ∃ D : List Slot, ((({} : JobTable).run {} .memory fourUsersAtTwoLevels).drain {} .memory
          (List.replicate 4 (Instant.scriptEpoch, "w"))).map (·.jobId) = D.map (·.job.jobId) ∧
        D.Perm (({} : JobTable).run {} .memory fourUsersAtTwoLevels).queuedSlots ∧
        D.Pairwise Slot.Precedes :=
  have hreach := JobTable.Reachable.empty.run fourUsersAtTwoLevels
  ⟨hreach, by decide, by decide,
    (dequeue_takes_oldest_of_first_level hreach).2.2.2 (by decide) _ (by decide)⟩

end ResilientAgent
