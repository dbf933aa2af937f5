import ResilientAgent.Proofs.Jobs.Machine
import ResilientAgent.Store.Basic

/-!
# Calls on the shared store

The store's operations on the records that both backends keep: the job queue, conversation
histories, remembered results and breaker counters. `Store.exec` makes one call at an instant,
as the runtime makes it: a call that succeeds leaves the store the operation returns, and one
that fails leaves the store as it was. `Store.run` makes calls one after another and collects
what each answered.

On an open store, a call on the job queue is the queue's own step on the store's table
(`Store.execQueue_of_available`), so what the queue's machine says of its table holds of the
store's. Any call changes the records alone: never where the store keeps them, whether it is
closed, or its configuration; the table moves by one step of the queue's machine and the
histories lose entries or gain one saved at the call's instant (`Store.exec_records`).
-/

namespace ResilientAgent

/-- A call on the store, with the arguments its caller passes. -/
inductive StoreCall where
  | queue (c : QueueCall)
  | load (userId : String)
  | save (h : ConversationState)
  | clear (userId : String)
  | purgeHistories
  | remembered (key : String)
  | remember (key value : String) (expiresAt : Instant)
  | purgeMemos
  /-- Changes the breaker counters of `name` by `f`, as a breaker's admission or record does. -/
  | updateBreaker (name : String) (f : BreakerState → BreakerState)
  | breaker (name : String)

/-- What a call on the store answers when it succeeds. -/
inductive StoreAnswer where
  | queue (a : QueueAnswer)
  | history (h : ConversationState)
  | done
  | purged (n : Nat)
  | memo (value : Option String)
  | breaker (s : BreakerState)
  | breakerRecord (s : Option BreakerState)

namespace Store

/-- The same records kept in another backend. -/
def onBackend (s : Store) (b : Backend) : Store := { s with backend := b }

/-- An operation's outcome as the store keeps it: the store the operation leaves when it
succeeds, the old store when it fails. -/
def commit {α : Type} (s : Store) (answer : α → StoreAnswer) :
    Except AgentError (α × Store) → Except AgentError StoreAnswer × Store
  | .ok (a, s') => (.ok (answer a), s')
  | .error e => (.error e, s)

/-- One call on the job queue, made at `now`. -/
def execQueue (s : Store) (now : Instant) : QueueCall → Except AgentError StoreAnswer × Store
  | .enqueue new => s.commit (.queue ∘ .job) (s.enqueue now new)
  | .get jobId => ((s.job? jobId).map (.queue ∘ .found), s)
  | .dequeue ps w => s.commit (.queue ∘ .granted) (s.dequeue now ps w)
  | .lease jobId w ttl => s.commit (.queue ∘ .lease) (s.lease now jobId w ttl)
  | .renew l => s.commit (.queue ∘ .lease) (s.renew now l)
  | .complete l r => s.commit (.queue ∘ .job) (s.complete now l r)
  | .fail l f => s.commit (.queue ∘ .job) (s.fail now l f)
  | .reap => s.commit (.queue ∘ .report) (s.reap now)
  | .purge => s.commit (.queue ∘ .count) (s.purgeJobs now)
  | .depth => (s.depth.map (.queue ∘ .count), s)

/-- One call, made at `now`. -/
def exec (s : Store) (now : Instant) : StoreCall → Except AgentError StoreAnswer × Store
  | .queue c => s.execQueue now c
  | .load userId => s.commit .history (s.load now userId)
  | .save h => s.commit .history (s.save now h)
  | .clear userId => s.commit (fun _ => .done) ((s.clear userId).map ((), ·))
  | .purgeHistories => s.commit .purged (s.purgeHistories now)
  | .remembered key => ((s.remembered key now).map .memo, s)
  | .remember key value expiresAt =>
    s.commit (fun _ => .done) ((s.remember key value expiresAt).map ((), ·))
  | .purgeMemos => s.commit .purged (s.purgeMemos now)
  | .updateBreaker name f =>
    s.commit (fun r => .breaker r.2) (s.updateBreaker name fun state => ((), f state))
  | .breaker name => ((s.breaker? name).map .breakerRecord, s)

/-- The answers to calls made one after another, each at its own instant, and the store after
them. -/
def run (s : Store) : List (StoreCall × Instant) → List (Except AgentError StoreAnswer) × Store
  | [] => ([], s)
  | (c, now) :: calls =>
    let r := s.exec now c
    let rest := r.2.run calls
    (r.1 :: rest.1, rest.2)

/-- The queue's table as the store's: its answer to a queue call and the store holding the table
the call leaves. -/
def liftQueue (s : Store) (r : Except AgentError QueueAnswer × JobTable) :
    Except AgentError StoreAnswer × Store :=
  (r.1.map .queue, { s with jobs := r.2 })

@[simp] theorem onBackend_backend (s : Store) (b : Backend) : (s.onBackend b).backend = b := rfl

@[simp] theorem onBackend_jobs (s : Store) (b : Backend) : (s.onBackend b).jobs = s.jobs := rfl

@[simp] theorem onBackend_queueConfig (s : Store) (b : Backend) :
    (s.onBackend b).queueConfig = s.queueConfig := rfl

@[simp] theorem onBackend_closed (s : Store) (b : Backend) : (s.onBackend b).closed = s.closed :=
  rfl

@[simp] theorem onBackend_histories (s : Store) (b : Backend) :
    (s.onBackend b).histories = s.histories := rfl

@[simp] theorem onBackend_memos (s : Store) (b : Backend) : (s.onBackend b).memos = s.memos := rfl

@[simp] theorem onBackend_breakers (s : Store) (b : Backend) :
    (s.onBackend b).breakers = s.breakers := rfl

@[simp] theorem onBackend_conversationConfig (s : Store) (b : Backend) :
    (s.onBackend b).conversationConfig = s.conversationConfig := rfl

variable {s : Store} {now : Instant}

theorem available_of_closed_false (h : s.closed = false) : s.available = .ok () := by
  simp [available, h]

theorem commit_tableOp {α : Type} (h : s.available = .ok ()) (answer : α → QueueAnswer)
    (r : Except AgentError (α × JobTable)) :
    s.commit (.queue ∘ answer)
        (do s.available; let (a, jobs) ← r; return (a, { s with jobs })) =
      s.liftQueue (s.jobs.commit answer r) := by
  cases r <;>
    simp [commit, JobTable.commit, liftQueue, h, bind, Except.bind, pure, Except.pure, Except.map]

theorem commit_tableStep {α : Type} (h : s.available = .ok ()) (answer : α → QueueAnswer)
    (r : α × JobTable) :
    s.commit (.queue ∘ answer) (do s.available; let (a, jobs) := r; return (a, { s with jobs })) =
      s.liftQueue (.ok (answer r.1), r.2) := by
  simp [commit, liftQueue, h, bind, Except.bind, pure, Except.pure, Except.map]

/-- An open store makes a queue call as the queue's machine makes it on the store's table. -/
theorem execQueue_of_available (h : s.available = .ok ()) (c : QueueCall) :
    s.execQueue now c = s.liftQueue (s.jobs.exec s.queueConfig s.backend now c) := by
  cases c with
  | enqueue new =>
    cases hv : new.validate with
    | error e =>
      simp [execQueue, enqueue, JobTable.exec, JobTable.enqueue, JobTable.commit, commit,
        liftQueue, hv, bind, Except.bind, Except.map]
    | ok u =>
      rw [execQueue, enqueue, hv]
      exact commit_tableOp h .job _
  | get jobId => simp [execQueue, job?, JobTable.exec, liftQueue, h, bind, Except.bind, pure,
      Except.pure, Except.map]
  | dequeue ps w => exact commit_tableStep h .granted _
  | lease jobId w ttl => exact commit_tableOp h .lease _
  | renew l => exact commit_tableOp h .lease _
  | complete l r => exact commit_tableOp h .job _
  | fail l f => exact commit_tableOp h .job _
  | reap => exact commit_tableStep h .report _
  | purge => exact commit_tableStep h .count (s.jobs.purge s.queueConfig s.backend now)
  | depth => simp [execQueue, depth, JobTable.exec, liftQueue, h, bind, Except.bind, pure,
      Except.pure, Except.map]

/-- On an open store a call changes only the records: the breakers, the remembered results, the
job table, which takes one step of the queue's machine, and the histories, which lose entries or
gain one saved at the call's instant. -/
theorem exec_records (h : s.available = .ok ()) (c : StoreCall) :
    ∃ breakers memos jobs histories,
      (s.exec now c).2 = { s with breakers, memos, jobs, histories } ∧
      (jobs = s.jobs ∨ ∃ qc, jobs = (s.jobs.exec s.queueConfig s.backend now qc).2) ∧
      ∀ e ∈ histories, e ∈ s.histories ∨ e.2.updatedAt = s.stamp now := by
  cases c with
  | queue qc =>
    rw [exec, execQueue_of_available h]
    exact ⟨_, _, _, _, rfl, .inr ⟨qc, rfl⟩, fun e he => .inl he⟩
  | load userId =>
    simp only [exec, load, h, bind, Except.bind, pure, Except.pure]
    cases s.histories.get? userId with
    | none => exact ⟨_, _, _, _, rfl, .inl rfl, fun e he => .inl he⟩
    | some saved =>
      by_cases hexpired : saved.isExpired s.conversationConfig.ttl (s.stamp now) = true
      · -- an expired history is dropped
        simp only [hexpired, if_true]
        exact ⟨_, _, _, _, rfl, .inl rfl, fun e he => .inl (List.mem_of_mem_filter he)⟩
      · simp only [hexpired]
        exact ⟨_, _, _, _, rfl, .inl rfl, fun e he => .inl he⟩
  | save saved =>
    simp only [exec, save, h, bind, Except.bind, pure, Except.pure]
    refine ⟨_, _, _, _, rfl, .inl rfl, fun e he => ?_⟩
    rcases Keyed.mem_put he with hold | rfl
    · exact .inl hold
    · exact .inr rfl
  | clear userId =>
    simp only [exec, clear, h, bind, Except.bind, pure, Except.pure, Except.map]
    exact ⟨_, _, _, _, rfl, .inl rfl, fun e he => .inl (List.mem_of_mem_filter he)⟩
  | purgeHistories =>
    simp only [exec, purgeHistories, h, bind, Except.bind, pure, Except.pure]
    exact ⟨_, _, _, _, rfl, .inl rfl, fun e he => .inl (List.mem_of_mem_filter he)⟩
  | remember key value expiresAt =>
    simp only [exec, remember, h, bind, Except.bind, pure, Except.pure, Except.map]
    exact ⟨_, _, _, _, rfl, .inl rfl, fun e he => .inl he⟩
  | purgeMemos =>
    simp only [exec, purgeMemos, h, bind, Except.bind, pure, Except.pure]
    exact ⟨_, _, _, _, rfl, .inl rfl, fun e he => .inl he⟩
  | updateBreaker name f =>
    simp only [exec, updateBreaker, h, bind, Except.bind, pure, Except.pure]
    exact ⟨_, _, _, _, rfl, .inl rfl, fun e he => .inl he⟩
  | remembered | breaker => exact ⟨_, _, _, _, rfl, .inl rfl, fun e he => .inl he⟩

end Store

end ResilientAgent
