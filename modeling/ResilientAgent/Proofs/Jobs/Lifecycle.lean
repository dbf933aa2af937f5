import ResilientAgent.Proofs.Jobs.Fields
import ResilientAgent.Proofs.Jobs.Progress

/-!
# The lifecycle of a job in memory

A job moves from the queue into progress, and from progress to completed or failed; the one way
back is a lapsed lease, which the reaper returns to the queue while deliveries remain and fails
once they are spent. `StatusChange` lists these edges with the calls that take them and what each
needs, and `JobMove.statusChange` shows that a call changes a job's status along one of them and
no other.

The rest is the progress order of `Progress`: a call that changes a job's delivery count or
status moves it strictly forward, so the one way back costs a delivery at the next grant, and
`Fields` bounds the deliveries. A settled job is never touched again (`JobMove.eq_of_terminal`),
and a job leaves the table only through a purge, once settled and past its retention.
-/

namespace ResilientAgent

/-- The status changes a call made at `now` may make to a job in memory, with the calls that make
them and what each needs. -/
inductive StatusChange (config : QueueConfig) (now : Instant) : QueueCall → Job → JobStatus → Prop
  /-- A dequeue delivers a queued job. -/
  | dequeued {ps : List Priority} {w : String} {j : Job} (hqueued : j.status = .queued) :
      StatusChange config now (.dequeue ps w) j .processing
  /-- A lease by name delivers the queued job it names. -/
  | leased {w : String} {ttl : Duration} {j : Job} (hqueued : j.status = .queued) :
      StatusChange config now (.lease j.jobId w ttl) j .processing
  /-- A completion under the job's current lease ends it. -/
  | completed {l : Lease} {r : JobResult} {j : Job} (hholds : j.holds l = true) :
      StatusChange config now (.complete l r) j .completed
  /-- A failure under the job's current lease ends it. -/
  | failed {l : Lease} {f : JobFailure} {j : Job} (hholds : j.holds l = true) :
      StatusChange config now (.fail l f) j .failed
  /-- The reaper fails a job in progress whose lease has lapsed and whose deliveries are spent. -/
  | exhausted {j : Job} {at_ : Instant} (hproc : j.status = .processing)
      (hlease : j.leaseExpiresAt = some at_) (hlapsed : at_.sinceEpoch ≤ now.sinceEpoch)
      (hspent : config.maxAttempts ≤ j.attempts) :
      StatusChange config now .reap j .failed
  /-- The reaper returns a job in progress whose lease has lapsed to the queue while deliveries
  remain. -/
  | requeued {j : Job} {at_ : Instant} (hproc : j.status = .processing)
      (hlease : j.leaseExpiresAt = some at_) (hlapsed : at_.sinceEpoch ≤ now.sinceEpoch)
      (hleft : j.attempts < config.maxAttempts) :
      StatusChange config now .reap j .queued

variable {config : QueueConfig} {now : Instant} {c : QueueCall} {j j' : Job}

/-- A call changes a job's status only along an edge of `StatusChange`. -/
theorem JobMove.statusChange (hmove : JobMove config .memory now c j j')
    (hchanged : j'.status ≠ j.status) : StatusChange config now c j j'.status := by
  cases hmove with
  | keep => exact absurd rfl hchanged
  | dequeue hqueued => exact .dequeued hqueued
  | lease hqueued => exact .leased hqueued
  | renew _ => exact absurd rfl hchanged
  | complete hholds => exact .completed hholds
  | fail hholds => exact .failed hholds
  | reap =>
    unfold Job.reaped at hchanged ⊢
    split_ifs at hchanged ⊢ with hlapsed hleft
    · exact absurd rfl hchanged
    all_goals
      obtain ⟨hproc, at_, hlease, hpassed⟩ := Job.lapsed_iff.mp (by simpa using hlapsed)
    · exact .requeued hproc hlease hpassed hleft
    · exact .exhausted hproc hlease hpassed (Nat.le_of_not_lt hleft)

open JobTable in
/-- The lifecycle of a job in a queue in memory, reached by any calls at any instants. A call
changes a job's status only along the edges of `StatusChange`; a call that changes its delivery
count or status moves it strictly forward in the order of `Job.progress`; no job is delivered
more than `max maxAttempts 1` times; a job leaves the table only through a purge, once settled
and past its retention; and over any run a job only moves forward, and a settled job stays as it
is. -/
theorem job_lifecycle (config : QueueConfig) {t : JobTable} (h : Reachable config .memory t) :
    (∀ (now : Instant) (c : QueueCall) (X : String) (j : Job), t.find? X = some j →
      (∀ j', (t.exec config .memory now c).2.find? X = some j' →
        (j'.status ≠ j.status → StatusChange config now c j j'.status) ∧
        (j'.attempts ≠ j.attempts ∨ j'.status ≠ j.status → j.progress < j'.progress)) ∧
      ((t.exec config .memory now c).2.find? X = none →
        c = .purge ∧ j.status.isTerminal = true ∧
          ∃ at_, j.completedAt = some at_ ∧
            (at_.add config.retention).sinceEpoch ≤ now.sinceEpoch)) ∧
    (∀ X j, t.find? X = some j → j.attempts ≤ max config.maxAttempts 1) ∧
    (∀ (calls : List (QueueCall × Instant)) (X : String) (j j' : Job), t.find? X = some j →
      (t.run config .memory calls).find? X = some j' →
        j.progress ≤ j'.progress ∧ (j.status.isTerminal = true → j' = j)) := by
  have hw := h.wellNumbered
  refine ⟨fun now c X j hj => ⟨fun j' hj' => ?_, fun hgone => ?_⟩,
    fun X j hj => (h.fitsStatus X j hj).2, fun calls X j j' hj hj' => ?_⟩
  · -- the job was moved by the call
    have hmove := jobMove_of_find? hw hj hj'
    exact ⟨hmove.statusChange, hmove.progress_lt⟩
  · obtain ⟨hpurge, hexpired⟩ := purged_of_find? hw hj hgone
    exact ⟨hpurge, Job.expired_memory_iff.mp hexpired⟩
  · -- along the run the job stays ahead of where it was, and a settled job stays put
    let Q : Job → Prop := fun j' => j.progress ≤ j'.progress ∧ (j.status.isTerminal = true → j' = j)
    have hQ : ∀ {now c j₁ j₂}, JobMove config .memory now c j₁ j₂ → Q j₁ → Q j₂ := by
      intro now c j₁ j₂ hmove ⟨hle, hstays⟩
      refine ⟨hle.trans hmove.progress_le, fun hterminal => ?_⟩
      obtain rfl := hstays hterminal
      exact hmove.eq_of_terminal hterminal
    exact run_find?_of_moves hw hQ hj ⟨le_rfl, fun _ => rfl⟩ calls j' hj'

/-- The first dequeue of a submitted job delivers it: the job moves from the queue into progress,
and forward. -/
theorem first_dequeue_delivers :
    let t :=
      (({} : JobTable).exec {} .memory ⟨0⟩ (.enqueue { userId := "alice", message := "hello" })).2
    ∃ j j', t.find? (jobLabel 1) = some j ∧
      (t.exec {} .memory ⟨0⟩ (.dequeue [] "w1")).2.find? (jobLabel 1) = some j' ∧
      StatusChange {} ⟨0⟩ (.dequeue [] "w1") j j'.status ∧ j.progress < j'.progress :=
  have hsubmitted : JobTable.Reachable {} .memory
      (({} : JobTable).exec {} .memory ⟨0⟩
        (.enqueue { userId := "alice", message := "hello" })).2 :=
    .exec _ _ .empty
  have hdelivered :=
    ((job_lifecycle {} hsubmitted).1 ⟨0⟩ (.dequeue [] "w1") (jobLabel 1) _ rfl).1 _ rfl
  ⟨_, _, rfl, rfl, hdelivered.1 (by decide), hdelivered.2 (.inr (by decide))⟩

end ResilientAgent
