import ResilientAgent.Proofs.Store.Millis
import ResilientAgent.Proofs.Jobs.Table
import ResilientAgent.Proofs.Idempotency.Callers

/-!
# Deadlines made by saturating addition

A lease, a retention window, a history's time to live and a remembered result all end at a
deadline made by adding a duration to an instant. The addition saturates at the last
representable instant, so a deadline decides as the exact comparison of the time elapsed with
the duration does, except at that last instant itself, where every deadline too late to
represent has passed (`Instant.add_le_iff`). A clock driven forward by a large enough step stops
there.

Each expiry test is read through this: the reaper takes a job out of progress
(`JobTable.reap_ends_progress_iff`), a purge forgets a finished job
(`JobTable.purge_forgets_iff`), a history expires (`ConversationState.isExpired_iff`) and a
remembered result is no longer served (`Store.remembered_remember_iff`) exactly when the time
elapsed reaches the duration, or the clock stands at the last instant.
-/

namespace ResilientAgent

namespace Instant

/-- A deadline made by saturating addition has passed exactly when the duration has elapsed,
or the clock stands at the last representable instant or beyond. -/
theorem add_le_iff {a now : Instant} {d : Duration} :
    (a.add d).sinceEpoch ≤ now.sinceEpoch ↔
      (d.toNanos : Int) ≤ now.sinceEpoch - a.sinceEpoch ∨ maxUtc.sinceEpoch ≤ now.sinceEpoch := by
  rw [add_sinceEpoch]
  omega

theorem lt_add_iff {a now : Instant} {d : Duration} :
    now.sinceEpoch < (a.add d).sinceEpoch ↔
      now.sinceEpoch - a.sinceEpoch < d.toNanos ∧ now.sinceEpoch < maxUtc.sinceEpoch := by
  rw [add_sinceEpoch]
  omega

theorem scriptEpoch_sinceEpoch : scriptEpoch.sinceEpoch = 1704067200000000000 := by decide

end Instant

/-! ## The reaper and the purge -/

namespace Job

variable {config : QueueConfig} {now : Instant} {j : Job}

theorem lapsed_grant_iff (w : String) {a : Instant} {d : Duration} :
    (JobTable.grant j .memory w d a).1.lapsed now = true ↔
      (d.toNanos : Int) ≤ now.sinceEpoch - a.sinceEpoch ∨
        Instant.maxUtc.sinceEpoch ≤ now.sinceEpoch := by
  rw [lapsed_iff, ← Instant.add_le_iff]
  simp [JobTable.grant, Backend.stamp]

theorem reaped_status_ne_iff (hj : j.status = .processing) :
    (j.reaped config now).status ≠ .processing ↔ j.lapsed now = true := by
  unfold reaped
  by_cases hlapsed : j.lapsed now = true
  · simp only [hlapsed, Bool.not_true, Bool.false_eq_true, if_false]
    split_ifs <;> simp
  · simp [hlapsed, hj]

theorem expired_memory_iff_elapsed {a : Instant} (hterm : j.status.isTerminal = true)
    (hat : j.completedAt = some a) :
    j.expired config .memory now = true ↔
      (config.retention.toNanos : Int) ≤ now.sinceEpoch - a.sinceEpoch ∨
        Instant.maxUtc.sinceEpoch ≤ now.sinceEpoch := by
  rw [expired_memory_iff, ← Instant.add_le_iff]
  simp [hterm, hat]

end Job

namespace JobTable

variable {t : JobTable} {config : QueueConfig} {now : Instant} {X : String}

/-- A pass of the reaper in memory takes a job in progress out of progress exactly when its
lease has lapsed. -/
theorem reap_ends_progress_iff (hw : t.WellNumbered) {j : Job} (hj : t.find? X = some j)
    (hproc : j.status = .processing) :
    ((t.reap config .memory now).2.find? X).map (·.status) ≠ some .processing ↔
      j.lapsed now = true := by
  rw [reap_eq_mapJobs hw.nodup, find?_mapJobs _ (Job.reaped_jobId config _) X, hj]
  simpa [Backend.stamp] using @Job.reaped_status_ne_iff config now j hproc

/-- A purge in memory forgets a job exactly when it has outlived its retention. -/
theorem purge_forgets_iff (hw : t.WellNumbered) {j : Job} (hj : t.find? X = some j) :
    (t.purge config .memory now).2.find? X = none ↔ j.expired config .memory now = true := by
  rw [find?_purge hw.nodup, hj]
  cases hexp : j.expired config .memory now <;> simp [hexp]

end JobTable

/-! ## Histories and remembered results -/

/-- A history saved at `updatedAt` has expired exactly when its time to live has elapsed since,
or the clock stands at the last representable instant. -/
theorem ConversationState.isExpired_iff (s : ConversationState) (ttl : Duration) (now : Instant) :
    s.isExpired ttl now = true ↔
      (ttl.toNanos : Int) ≤ now.sinceEpoch - s.updatedAt.sinceEpoch ∨
        Instant.maxUtc.sinceEpoch ≤ now.sinceEpoch := by
  rw [← Instant.add_le_iff]
  simp [isExpired]

/-- A result remembered in memory at `a` for `ttl` is served at `now` exactly when less than
`ttl` has elapsed since `a` and the clock is short of the last representable instant. -/
theorem Store.remembered_remember_iff {s : Store} (hmem : s.backend = .memory)
    (key value : String) (a now : Instant) (ttl : Duration) :
    ((s.remember key value (a.add ttl)).bind fun s' => s'.remembered key now) =
      .ok (if now.sinceEpoch - a.sinceEpoch < ttl.toNanos ∧
          now.sinceEpoch < Instant.maxUtc.sinceEpoch then some value else none) := by
  rw [Store.remember_of_memory hmem]
  have hmem' : ({ s with memos := s.memos.put key ⟨value, a.add ttl⟩ } : Store).backend = .memory :=
    hmem
  simp only [Except.bind, Store.remembered_of_memory hmem', Keyed.get?_put_self, Option.bind_some,
    gt_iff_lt, Instant.lt_add_iff]

/-! ## Every expiry test -/

/-- Each expiry test built on saturating addition decides as the exact comparison of the time
elapsed since `a` with its duration, except that at the last representable instant every
deadline has passed. In memory, the reaper takes a job leased at `a` for `d` out of progress at
`now` exactly when `d` has elapsed since `a` or `now` is the last instant; a purge forgets a job
finished at `a` exactly when the retention has elapsed or `now` is the last instant; a history
saved at `a` expires by the same rule for its time to live; and a result remembered at `a` for
`ttl` is served exactly when less than `ttl` has elapsed and `now` is short of the last
instant. -/
theorem expiry_tests_saturate (a now : Instant) :
    (∀ (config : QueueConfig) (t : JobTable) (X w : String) (j : Job) (d : Duration),
      t.WellNumbered → t.find? X = some (JobTable.grant j .memory w d a).1 →
      (((t.reap config .memory now).2.find? X).map (·.status) ≠ some .processing ↔
        (d.toNanos : Int) ≤ now.sinceEpoch - a.sinceEpoch ∨
          Instant.maxUtc.sinceEpoch ≤ now.sinceEpoch)) ∧
    (∀ (config : QueueConfig) (t : JobTable) (X : String) (j : Job),
      t.WellNumbered → t.find? X = some j → j.status.isTerminal = true →
      j.completedAt = some a →
      ((t.purge config .memory now).2.find? X = none ↔
        (config.retention.toNanos : Int) ≤ now.sinceEpoch - a.sinceEpoch ∨
          Instant.maxUtc.sinceEpoch ≤ now.sinceEpoch)) ∧
    (∀ (userId : String) (messages : List Message) (ttl : Duration),
      ((⟨userId, messages, a⟩ : ConversationState).isExpired ttl now = true ↔
        (ttl.toNanos : Int) ≤ now.sinceEpoch - a.sinceEpoch ∨
          Instant.maxUtc.sinceEpoch ≤ now.sinceEpoch)) ∧
    (∀ (s : Store) (key value : String) (ttl : Duration), s.backend = .memory →
      ((s.remember key value (a.add ttl)).bind fun s' => s'.remembered key now) =
        .ok (if now.sinceEpoch - a.sinceEpoch < ttl.toNanos ∧
            now.sinceEpoch < Instant.maxUtc.sinceEpoch then some value else none)) := by
  refine ⟨fun config t X w j d hw hj => ?_, fun config t X j hw hj hterm hat => ?_,
    fun userId messages ttl => ConversationState.isExpired_iff _ ttl now,
    fun s key value ttl hmem => Store.remembered_remember_iff hmem key value a now ttl⟩
  · -- a granted job is in progress, so the reaper ends it exactly when its lease has lapsed
    rw [JobTable.reap_ends_progress_iff hw hj rfl, Job.lapsed_grant_iff]
  · rw [JobTable.purge_forgets_iff hw hj, Job.expired_memory_iff_elapsed hterm hat]

/-- The job the scripts submit first: user `u`, message `m`, at their epoch. -/
def firstScriptJob : Job := ({ userId := "u", message := "m" } : NewJob).toJob 1 Instant.scriptEpoch

/-- Leased for the default lease time of 150 seconds at the epoch, the job is taken out of
progress by the reaper 150 seconds later; finished at the epoch, it is forgotten by a purge once
the hour of retention has passed; and a result remembered at the epoch for a minute is still
served 59 seconds later. -/
theorem deadlines_end_on_time :
    let leased := (JobTable.grant firstScriptJob .memory "w" (Duration.ofSecs 150) Instant.scriptEpoch).1
    let finished := { firstScriptJob with status := .completed, completedAt := some Instant.scriptEpoch }
    (({} : JobTable).append leased).WellNumbered ∧
      (({} : JobTable).append leased).find? (jobLabel 1) = some leased ∧
      (((({} : JobTable).append leased).reap {} .memory
          (Instant.scriptEpoch.addMillis 150000)).2.find? (jobLabel 1)).map (·.status) ≠
        some .processing ∧
      (({} : JobTable).append finished).WellNumbered ∧
      (({} : JobTable).append finished).find? (jobLabel 1) = some finished ∧
      finished.status.isTerminal = true ∧ finished.completedAt = some Instant.scriptEpoch ∧
      ((({} : JobTable).append finished).purge {} .memory
          (Instant.scriptEpoch.addMillis 3600000)).2.find? (jobLabel 1) = none ∧
      (({} : Store).remember "k" "v" (Instant.scriptEpoch.add (Duration.ofSecs 60))).bind
          (fun s' => s'.remembered "k" (Instant.scriptEpoch.addMillis 59000)) = .ok (some "v") := by
  intro leased finished
  have hwl : (({} : JobTable).append leased).WellNumbered :=
    JobTable.wellNumbered_empty.append rfl
  have hwf : (({} : JobTable).append finished).WellNumbered :=
    JobTable.wellNumbered_empty.append rfl
  have hfl : (({} : JobTable).append leased).find? (jobLabel 1) = some leased := by
    rw [JobTable.find?_append JobTable.wellNumbered_empty rfl, if_pos (by rfl)]
  have hff : (({} : JobTable).append finished).find? (jobLabel 1) = some finished := by
    rw [JobTable.find?_append JobTable.wellNumbered_empty rfl, if_pos (by rfl)]
  have hreap := (expiry_tests_saturate Instant.scriptEpoch (Instant.scriptEpoch.addMillis 150000)).1
    {} _ (jobLabel 1) "w" firstScriptJob (Duration.ofSecs 150) hwl hfl
  have hpurge := (expiry_tests_saturate Instant.scriptEpoch
    (Instant.scriptEpoch.addMillis 3600000)).2.1 {} _ (jobLabel 1) finished hwf hff rfl rfl
  have hmemo := (expiry_tests_saturate Instant.scriptEpoch
    (Instant.scriptEpoch.addMillis 59000)).2.2.2 {} "k" "v" (Duration.ofSecs 60) rfl
  refine ⟨hwl, hfl, hreap.2 (.inl ?_), hwf, hff, rfl, rfl, hpurge.2 (.inl ?_), ?_⟩
  · simp [Instant.addMillis, Duration.ofSecs, Duration.nanosPerSecond]
  · simp [Instant.addMillis, Duration.ofSecs, Duration.nanosPerSecond]
  · rw [hmemo, if_pos]
    simp only [Instant.addMillis, Duration.ofSecs, Duration.nanosPerSecond, Instant.maxUtc_sinceEpoch,
      Instant.scriptEpoch_sinceEpoch]
    constructor <;> omega

/-- A lease longer than the time left to the last representable instant: leased at the epoch
of the scripts for ten trillion seconds, the job is taken out of progress by the reaper at that
last instant, though less than that has elapsed since it was leased. -/
theorem far_lease_reaped_before_it_elapses :
    let leased := (JobTable.grant firstScriptJob .memory "w" (Duration.ofSecs 10000000000000)
      Instant.scriptEpoch).1
    (((({} : JobTable).append leased).reap {} .memory Instant.maxUtc).2.find? (jobLabel 1)).map
        (·.status) ≠ some .processing ∧
      Instant.maxUtc.sinceEpoch - Instant.scriptEpoch.sinceEpoch <
        ((Duration.ofSecs 10000000000000).toNanos : Int) := by
  intro leased
  have hfound : (({} : JobTable).append leased).find? (jobLabel 1) = some leased := by
    rw [JobTable.find?_append JobTable.wellNumbered_empty rfl, if_pos (by rfl)]
  refine ⟨?_, ?_⟩
  · -- the deadline saturated at the last instant, which the clock has reached
    rw [JobTable.reap_ends_progress_iff (JobTable.wellNumbered_empty.append rfl) hfound rfl,
      Job.lapsed_grant_iff]
    exact .inr le_rfl
  · simp only [Instant.maxUtc_sinceEpoch, Instant.scriptEpoch_sinceEpoch, Duration.ofSecs,
      Duration.nanosPerSecond]
    omega

end ResilientAgent
