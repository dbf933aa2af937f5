import ResilientAgent.Proofs.Jobs.Machine

/-!
# The fields a job's status fixes

A job record carries seven fields that only make sense in some statuses: the lease's owner and
deadline, the start, the end, the result, the failure and the delivery count. `Job.FitsStatus`
says which of them each status fixes. A queued job holds no lease, has not ended and has a
delivery left; a job in progress is held by a worker until a deadline, has started and not ended,
and has been delivered at least once; a completed job has its result and a failed job its failure,
and neither holds a lease. The queue delivers a job at most `max maxAttempts 1` times.

Every call keeps all of this for every job it touches (`JobMove.fitsStatus`), and a submission
stores a job that has it, so it holds of every job of every table the queue reaches, whatever
the calls and however the clock moves between them (`stored_jobs_fit_status`).
-/

namespace ResilientAgent

/-- The fields a job's status fixes; `max config.maxAttempts 1` is the most deliveries the queue
makes of one job. -/
def Job.FitsStatus (config : QueueConfig) (j : Job) : Prop :=
  match j.status with
  | .queued =>
    j.leaseOwner = none ∧ j.leaseExpiresAt = none ∧ j.completedAt = none ∧ j.result = none ∧
      j.error = none ∧ j.attempts < max config.maxAttempts 1
  | .processing =>
    j.leaseOwner.isSome ∧ j.leaseExpiresAt.isSome ∧ j.startedAt.isSome ∧ j.completedAt = none ∧
      j.result = none ∧ j.error = none ∧ 1 ≤ j.attempts ∧ j.attempts ≤ max config.maxAttempts 1
  | .completed =>
    j.result.isSome ∧ j.error = none ∧ j.completedAt.isSome ∧ j.leaseOwner = none ∧
      j.leaseExpiresAt = none
  | .failed =>
    j.error.isSome ∧ j.result = none ∧ j.completedAt.isSome ∧ j.leaseOwner = none ∧
      j.leaseExpiresAt = none

variable {config : QueueConfig} {b : Backend} {now : Instant} {c : QueueCall} {j j' : Job}

theorem Job.fitsStatus_processing (hproc : j.status = .processing) :
    j.FitsStatus config ↔
      j.leaseOwner.isSome ∧ j.leaseExpiresAt.isSome ∧ j.startedAt.isSome ∧ j.completedAt = none ∧
        j.result = none ∧ j.error = none ∧ 1 ≤ j.attempts ∧
        j.attempts ≤ max config.maxAttempts 1 := by
  simp only [Job.FitsStatus, hproc]

theorem Job.outcome_none_of_holds {l : Lease} (hfit : j.FitsStatus config)
    (hholds : j.holds l = true) : j.result = none ∧ j.error = none := by
  obtain ⟨hproc, -⟩ := (Job.holds_iff _ _).mp hholds
  obtain ⟨-, -, -, -, hresult, herror, -⟩ := (Job.fitsStatus_processing hproc).mp hfit
  exact ⟨hresult, herror⟩

theorem NewJob.toJob_fitsStatus (new : NewJob) (n : Nat) (at_ : Instant) :
    (new.toJob n at_).FitsStatus config ∧
      (new.toJob n at_).attempts ≤ max config.maxAttempts 1 := by
  simp [Job.FitsStatus, NewJob.toJob]

private theorem grant_fitsStatus (hqueued : j.status = .queued) (hfit : j.FitsStatus config)
    (w : String) (ttl : Duration) :
    (JobTable.grant j b w ttl now).1.FitsStatus config ∧
      (JobTable.grant j b w ttl now).1.attempts ≤ max config.maxAttempts 1 := by
  simp only [Job.FitsStatus, hqueued] at hfit
  obtain ⟨-, -, hcompleted, hresult, herror, hleft⟩ := hfit
  simp only [Job.FitsStatus, JobTable.grant, Option.isSome_some, hcompleted, hresult, herror,
    true_and]
  omega

private theorem reaped_fitsStatus (hfit : j.FitsStatus config)
    (hbound : j.attempts ≤ max config.maxAttempts 1) (at_ : Instant) :
    (j.reaped config at_).FitsStatus config ∧
      (j.reaped config at_).attempts ≤ max config.maxAttempts 1 := by
  unfold Job.reaped
  split_ifs with hlapsed hleft
  · exact ⟨hfit, hbound⟩
  · have hproc : j.status = .processing := Job.status_of_lapsed (by simpa using hlapsed)
    obtain ⟨-, -, -, hcompleted, hresult, herror, -⟩ := (Job.fitsStatus_processing hproc).mp hfit
    simp only [Job.FitsStatus, hcompleted, hresult, herror, true_and]
    omega
  · have hproc : j.status = .processing := Job.status_of_lapsed (by simpa using hlapsed)
    obtain ⟨-, -, -, -, hresult, -⟩ := (Job.fitsStatus_processing hproc).mp hfit
    simp only [Job.FitsStatus, hresult, Option.isSome_some, true_and]
    exact hbound

/-- Every move keeps the fields a job's status fixes, and the bound on its deliveries. -/
theorem JobMove.fitsStatus (hmove : JobMove config b now c j j') (hfit : j.FitsStatus config)
    (hbound : j.attempts ≤ max config.maxAttempts 1) :
    j'.FitsStatus config ∧ j'.attempts ≤ max config.maxAttempts 1 := by
  cases hmove with
  | keep => exact ⟨hfit, hbound⟩
  | dequeue hqueued => exact grant_fitsStatus hqueued hfit _ _
  | lease hqueued => exact grant_fitsStatus hqueued hfit _ _
  | renew hholds =>
    obtain ⟨hproc, -⟩ := (Job.holds_iff _ _).mp hholds
    rw [Job.fitsStatus_processing hproc] at hfit
    obtain ⟨howner, -, hstarted, hrest⟩ := hfit
    refine ⟨?_, hbound⟩
    simp only [Job.FitsStatus, hproc]
    exact ⟨howner, rfl, hstarted, hrest⟩
  | complete hholds | fail hholds =>
    -- a settlement writes every field its status fixes, and the outcome field it keeps was
    -- empty while the job was in progress
    obtain ⟨hresult, herror⟩ := Job.outcome_none_of_holds hfit hholds
    simp only [Job.FitsStatus, Option.isSome_some, hresult, herror, Backend.settled_none_none,
      and_self, true_and]
    exact hbound
  | reap => exact reaped_fitsStatus hfit hbound _

theorem JobTable.Reachable.fitsStatus {t : JobTable} (h : JobTable.Reachable config b t) :
    ∀ X j, t.find? X = some j → j.FitsStatus config ∧ j.attempts ≤ max config.maxAttempts 1 :=
  h.find?_of_moves (fun j => j.FitsStatus config ∧ j.attempts ≤ max config.maxAttempts 1)
    (fun new n at_ => NewJob.toJob_fitsStatus new n at_)
    (fun hmove hj => hmove.fitsStatus hj.1 hj.2)

/-- In every table the queue reaches, by any calls at any instants, each stored job has the fields
its status fixes and has been delivered at most `max maxAttempts 1` times; so, with the delivery
limit a 32-bit count, no delivery count ever leaves 32 bits. -/
theorem stored_jobs_fit_status {t : JobTable} (h : JobTable.Reachable config b t) :
    ∀ s ∈ t.slots, s.job.FitsStatus config ∧ s.job.attempts ≤ max config.maxAttempts 1 ∧
      (config.maxAttempts < 2 ^ 32 → s.job.attempts < 2 ^ 32) := by
  intro s hs
  obtain ⟨hfit, hbound⟩ :=
    h.fitsStatus s.job.jobId s.job (JobTable.find?_of_mem h.wellNumbered.nodup hs)
  exact ⟨hfit, hbound, fun hlimit => by omega⟩

theorem stored_jobs_fit_status_after_dequeue :
    let t := ({} : JobTable).run {} .memory JobTable.submitThenDequeue
    JobTable.Reachable {} .memory t ∧
      ∀ s ∈ t.slots, s.job.FitsStatus {} ∧ s.job.attempts ≤ max ({} : QueueConfig).maxAttempts 1 ∧
        (({} : QueueConfig).maxAttempts < 2 ^ 32 → s.job.attempts < 2 ^ 32) :=
  ⟨JobTable.Reachable.empty.run _, stored_jobs_fit_status (JobTable.Reachable.empty.run _)⟩

end ResilientAgent
