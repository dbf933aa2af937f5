import ResilientAgent.Proofs.Jobs.Machine

/-!
# How far a job has got

A job's life is a sequence of deliveries, and each delivery goes from in progress either back to
the queue or to its end. `Job.progress` reads how far a job has got as a pair ordered
lexicographically: the deliveries so far, then the stage of the last one, with a job in progress
before a job back in the queue, and both before a settled job. A job that is completed and one
that failed stand at the same stage.

No call moves a job backwards (`JobMove.progress`): a call either leaves a job's delivery count
and status as they were, or moves it strictly forward. This one fact carries the lease fencing
of `Fencing` and the lifecycle of `Lifecycle`. The other facts here say what a call never
changes: the user a job belongs to, and that only a grant puts a job in progress.
-/

namespace ResilientAgent

/-- How far a delivery has got: in progress, back in the queue, or settled. -/
def JobStatus.stage : JobStatus → Nat
  | .processing => 0
  | .queued => 1
  | .completed | .failed => 2

/-- How far a job has got: its deliveries so far and then how far the last one got, in that
order. -/
def Job.progress (j : Job) : Nat ×ₗ Nat := toLex (j.attempts, j.status.stage)

theorem Job.progress_lt_progress {j j' : Job} :
    j.progress < j'.progress ↔
      j.attempts < j'.attempts ∨ j.attempts = j'.attempts ∧ j.status.stage < j'.status.stage :=
  Prod.Lex.toLex_lt_toLex

theorem JobStatus.stage_pos {s : JobStatus} : 0 < s.stage ↔ s ≠ .processing := by
  cases s <;> simp [JobStatus.stage]

variable {config : QueueConfig} {b : Backend} {now : Instant} {c : QueueCall} {j j' : Job}

/-- A call leaves a job where it was, or moves it strictly forward: a grant starts a later
delivery, and a settlement or a reaper pass moves a job in progress to a later stage. -/
theorem JobMove.progress (hmove : JobMove config b now c j j') :
    (j'.attempts = j.attempts ∧ j'.status = j.status) ∨ j.progress < j'.progress := by
  cases hmove with
  | keep => exact .inl ⟨rfl, rfl⟩
  | dequeue _ | lease _ =>
    exact .inr (Job.progress_lt_progress.mpr (.inl (Nat.lt_succ_self _)))
  | renew _ => exact .inl ⟨rfl, rfl⟩
  | complete hholds | fail hholds =>
    obtain ⟨hproc, -⟩ := (Job.holds_iff _ _).mp hholds
    refine .inr (Job.progress_lt_progress.mpr (.inr ⟨rfl, ?_⟩))
    simp [hproc, JobStatus.stage]
  | reap =>
    rcases Job.reaped_cases config (b.stamp now) j with hsame | ⟨hlapsed, hattempts, hout⟩
    · rw [hsame]
      exact .inl ⟨rfl, rfl⟩
    · -- a job in progress leaves progress with its delivery count
      refine .inr (Job.progress_lt_progress.mpr (.inr ⟨hattempts.symm, ?_⟩))
      rw [Job.status_of_lapsed hlapsed]
      exact JobStatus.stage_pos.mpr hout

theorem JobMove.progress_le (hmove : JobMove config b now c j j') : j.progress ≤ j'.progress := by
  rcases hmove.progress with ⟨hattempts, hstatus⟩ | hlt
  · simp [Job.progress, hattempts, hstatus]
  · exact hlt.le

theorem JobMove.progress_lt (hmove : JobMove config b now c j j')
    (hchanged : j'.attempts ≠ j.attempts ∨ j'.status ≠ j.status) : j.progress < j'.progress := by
  rcases hmove.progress with ⟨hattempts, hstatus⟩ | hlt
  · rcases hchanged with hne | hne
    · exact absurd hattempts hne
    · exact absurd hstatus hne
  · exact hlt

theorem JobMove.eq_of_terminal (hmove : JobMove config b now c j j')
    (hterminal : j.status.isTerminal = true) : j' = j := by
  cases hmove with
  | keep => rfl
  | dequeue hqueued | lease hqueued => simp [hqueued, JobStatus.isTerminal] at hterminal
  | renew hholds | complete hholds | fail hholds =>
    obtain ⟨hproc, -⟩ := (Job.holds_iff _ _).mp hholds
    simp [hproc, JobStatus.isTerminal] at hterminal
  | reap =>
    rcases Job.reaped_cases config (b.stamp now) j with hsame | ⟨hlapsed, -, -⟩
    · exact hsame
    · simp [Job.status_of_lapsed hlapsed, JobStatus.isTerminal] at hterminal

theorem JobMove.userId (hmove : JobMove config b now c j j') : j'.userId = j.userId := by
  cases hmove with
  | reap =>
    unfold Job.reaped
    split_ifs <;> rfl
  | _ => rfl

theorem JobMove.processing (hmove : JobMove config b now c j j') (hproc : j'.status = .processing) :
    j.status = .processing ∨
      j.status = .queued ∧ ((∃ ps w, c = .dequeue ps w) ∨ ∃ w ttl, c = .lease j.jobId w ttl) := by
  cases hmove with
  | keep => exact .inl hproc
  | dequeue hqueued => exact .inr ⟨hqueued, .inl ⟨_, _, rfl⟩⟩
  | lease hqueued => exact .inr ⟨hqueued, .inr ⟨_, _, rfl⟩⟩
  | renew _ => exact .inl hproc
  | complete _ | fail _ => cases hproc
  | reap =>
    rcases Job.reaped_cases config (b.stamp now) j with hsame | ⟨hlapsed, -, -⟩
    · exact .inl (hsame ▸ hproc)
    · exact .inl (Job.status_of_lapsed hlapsed)

end ResilientAgent
