import ResilientAgent.Proofs.Process.Turns
import ResilientAgent.Service.Idempotency

/-!
# The callers of an idempotency guard

A caller of `IdempotencyGuard.ensure` goes through a few places, and between two of its turns
it is always at one of them (`IdempotencyGuard.Caller`): about to claim the key and arrive at
its lock, queued behind the caller that holds the lock, running its operation with the lock in
hand, or finished. Each place stands for the process that is left of the call there
(`Caller.term`): in the middle three, the part inside the caller's claim (`Caller.held`) with
the claim's drop after it.

`Caller.Move` says what one turn of a caller does, in the guard's terms: it claims the key,
arrives and takes the free permit or queues up; a queued caller picks up a permit it was handed;
with the permit in hand it looks the key up, and replays what is remembered or starts its
operation; the operation runs a turn, or finishes, and a success is remembered; and the permit
is given back and the claim dropped. The guard's events say what happened: a lookup that
started the operation, a replay, and a remembered success.

`Caller.move_of_turn` shows that this is all a turn can do: with the store in memory, and an
operation that leaves the key's lock, claims and remembered result alone
(`IdempotencyGuard.Keeps`), every turn of the process a caller stands for is a move of the
caller. Dropping a caller (`Caller.release_term`) gives back what it holds: its place in the
queue or its permit, and then its claim.
-/

namespace ResilientAgent

/-! ## The world as the guard sees it -/

theorem Keyed.filter_put_self {α : Type} (t : Keyed α) (key : String) (value : α)
    (hone : (t.filter (·.1 == key)).length ≤ 1) :
    (t.put key value).filter (·.1 == key) = [(key, value)] := by
  unfold Keyed.put
  split
  · rename_i hany
    rw [List.filter_map]
    have hsame : ((fun e : String × α => e.1 == key) ∘ fun e =>
        if e.1 == key then (key, value) else e) = fun e => e.1 == key := by
      funext e
      simp only [Function.comp]
      split <;> simp_all
    rw [hsame]
    obtain ⟨e, he, hkey⟩ := List.any_eq_true.1 hany
    have hmem : e ∈ t.filter (·.1 == key) := List.mem_filter.2 ⟨he, hkey⟩
    have hsingle : t.filter (·.1 == key) = [e] := by
      cases hf : t.filter (·.1 == key) with
      | nil => rw [hf] at hmem; cases hmem
      | cons e' rest =>
        cases rest with
        | nil => rw [hf, List.mem_singleton] at hmem; rw [hmem]
        | cons e'' rest => rw [hf] at hone; simp at hone
    have hk : e.1 = key := by simpa using hkey
    rw [hsingle]
    simp [hk]
  · rename_i hany
    have hnone : t.filter (·.1 == key) = [] := by
      rw [List.filter_eq_nil_iff]
      intro e he hkey
      exact hany (List.any_eq_true.2 ⟨e, he, hkey⟩)
    simp [List.filter_append, hnone]

namespace World

/-- The world with an event recorded, as `Action.record` leaves it. -/
def recordEvent (w : World) (e : RuntimeEvent) : World :=
  let w := if w.recording then { w with events := w.events.push e } else w
  if w.logging then { w with journal := w.journal.push ⟨w.spans, .events, e.logRecord⟩ } else w

/-- The results remembered under `key`: one at most, when the store was only ever changed by
`Keyed.put`. -/
def recordsOf (w : World) (key : String) : Keyed Memo := w.store.memos.filter (·.1 == key)

/-- The world with `m` remembered under `key`. -/
def keep (w : World) (key : String) (m : Memo) : World :=
  { w with store := { w.store with memos := w.store.memos.put key m } }

variable (w : World) (name : String) (permits : Nat)

@[simp] theorem gate_changeGate (f : Gate → Gate) :
    (w.changeGate name permits f).gate name permits = f (w.gate name permits) := by
  simp [changeGate, gate, Keyed.get?_put_self]

@[simp] theorem changeGate_store (f : Gate → Gate) : (w.changeGate name permits f).store = w.store :=
  rfl

@[simp] theorem changeGate_now (f : Gate → Gate) : (w.changeGate name permits f).now = w.now := rfl

@[simp] theorem changeGate_nextTicket (f : Gate → Gate) :
    (w.changeGate name permits f).nextTicket = w.nextTicket := rfl

theorem arrive_eq : w.arrive name permits =
    ((w.nextTicket, ((w.gate name permits).arrive w.nextTicket).1),
      { w with nextTicket := w.nextTicket + 1,
               gates := w.gates.put name ((w.gate name permits).arrive w.nextTicket).2 }) := rfl

@[simp] theorem arrive_gate :
    (w.arrive name permits).2.gate name permits = ((w.gate name permits).arrive w.nextTicket).2 := by
  simp [arrive_eq, gate, Keyed.get?_put_self]

@[simp] theorem arrive_store : (w.arrive name permits).2.store = w.store := rfl

@[simp] theorem arrive_now : (w.arrive name permits).2.now = w.now := rfl

@[simp] theorem arrive_nextTicket : (w.arrive name permits).2.nextTicket = w.nextTicket + 1 := rfl

@[simp] theorem arrive_ticket : (w.arrive name permits).1.1 = w.nextTicket := rfl

@[simp] theorem recordEvent_store (e : RuntimeEvent) : (w.recordEvent e).store = w.store := by
  unfold recordEvent
  by_cases h1 : w.recording <;> by_cases h2 : w.logging <;> simp [h1, h2]

@[simp] theorem recordEvent_gates (e : RuntimeEvent) : (w.recordEvent e).gates = w.gates := by
  unfold recordEvent
  by_cases h1 : w.recording <;> by_cases h2 : w.logging <;> simp [h1, h2]

@[simp] theorem recordEvent_nextTicket (e : RuntimeEvent) :
    (w.recordEvent e).nextTicket = w.nextTicket := by
  unfold recordEvent
  by_cases h1 : w.recording <;> by_cases h2 : w.logging <;> simp [h1, h2]

@[simp] theorem recordEvent_now (e : RuntimeEvent) : (w.recordEvent e).now = w.now := by
  unfold recordEvent now
  by_cases h1 : w.recording <;> by_cases h2 : w.logging <;> simp [h1, h2]

theorem recordEvent_gate (e : RuntimeEvent) :
    (w.recordEvent e).gate name permits = w.gate name permits := by
  simp [gate]

@[simp] theorem keep_gates (key : String) (m : Memo) : (w.keep key m).gates = w.gates := rfl

@[simp] theorem keep_now (key : String) (m : Memo) : (w.keep key m).now = w.now := rfl

@[simp] theorem keep_nextTicket (key : String) (m : Memo) :
    (w.keep key m).nextTicket = w.nextTicket := rfl

@[simp] theorem keep_backend (key : String) (m : Memo) :
    (w.keep key m).store.backend = w.store.backend := rfl

@[simp] theorem keep_memo (key : String) (m : Memo) : (w.keep key m).store.memos.get? key = some m :=
  Keyed.get?_put_self _ _ _

@[simp] theorem keep_inFlight (key : String) (m : Memo) : (w.keep key m).inFlight = w.inFlight := rfl

@[simp] theorem changeGate_inFlight (f : Gate → Gate) :
    (w.changeGate name permits f).inFlight = w.inFlight := rfl

@[simp] theorem arrive_inFlight : (w.arrive name permits).2.inFlight = w.inFlight := rfl

@[simp] theorem recordEvent_inFlight (e : RuntimeEvent) : (w.recordEvent e).inFlight = w.inFlight := by
  unfold recordEvent
  by_cases h1 : w.recording <;> by_cases h2 : w.logging <;> simp [h1, h2]

@[simp] theorem recordsOf_changeGate (key : String) (f : Gate → Gate) :
    (w.changeGate name permits f).recordsOf key = w.recordsOf key := rfl

/-! ### Claims on a key -/

variable (key : String)

@[simp] theorem claim_store : (w.claim key).store = w.store := rfl

@[simp] theorem claim_now : (w.claim key).now = w.now := rfl

@[simp] theorem claim_nextTicket : (w.claim key).nextTicket = w.nextTicket := rfl

@[simp] theorem claim_gates : (w.claim key).gates = w.gates := rfl

@[simp] theorem claim_gate : (w.claim key).gate name permits = w.gate name permits := rfl

theorem inFlight_claim : (w.claim key).inFlight.get? key = some (w.claims key + 1) :=
  Keyed.get?_put_self _ _ _

@[simp] theorem unclaim_store : (w.unclaim key).store = w.store := by
  unfold unclaim
  split <;> rfl

@[simp] theorem unclaim_now : (w.unclaim key).now = w.now := by
  unfold unclaim
  split <;> rfl

@[simp] theorem unclaim_nextTicket : (w.unclaim key).nextTicket = w.nextTicket := by
  unfold unclaim
  split <;> rfl

@[simp] theorem unclaim_timed : (w.unclaim key).timed = w.timed := by
  unfold unclaim
  split <;> rfl

@[simp] theorem unclaim_manual : (w.unclaim key).manual = w.manual := by
  unfold unclaim
  split <;> rfl

@[simp] theorem recordsOf_unclaim (k : String) : (w.unclaim key).recordsOf k = w.recordsOf k := by
  simp [recordsOf]

theorem inFlight_unclaim :
    (w.unclaim key).inFlight.get? key = if w.claims key ≤ 1 then none else some (w.claims key - 1) := by
  unfold unclaim
  split
  · exact Keyed.get?_erase_self _ _
  · exact Keyed.get?_put_self _ _ _

theorem lock_unclaim : (w.unclaim key).gates.get? (IdempotencyGuard.lockName key) =
    if w.claims key ≤ 1 then none else w.gates.get? (IdempotencyGuard.lockName key) := by
  unfold unclaim
  split
  · exact Keyed.get?_erase_self _ _
  · rfl

theorem gate_unclaim : (w.unclaim key).gate (IdempotencyGuard.lockName key) 1 =
    if w.claims key ≤ 1 then Gate.fresh 1 else w.gate (IdempotencyGuard.lockName key) 1 := by
  unfold gate
  rw [lock_unclaim]
  split <;> rfl

/-- The world with the results that have expired by `now` forgotten. -/
def forgetExpired (w : World) (now : Instant) : World :=
  { w with store := { w.store with memos := w.store.memos.filter fun e =>
      e.2.expiresAt.sinceEpoch > now.sinceEpoch } }

@[simp] theorem forgetExpired_gate (now : Instant) :
    (w.forgetExpired now).gate name permits = w.gate name permits := rfl

@[simp] theorem forgetExpired_gates (now : Instant) : (w.forgetExpired now).gates = w.gates := rfl

@[simp] theorem forgetExpired_inFlight (now : Instant) :
    (w.forgetExpired now).inFlight = w.inFlight := rfl

@[simp] theorem forgetExpired_now (now : Instant) : (w.forgetExpired now).now = w.now := rfl

@[simp] theorem forgetExpired_nextTicket (now : Instant) :
    (w.forgetExpired now).nextTicket = w.nextTicket := rfl

@[simp] theorem forgetExpired_backend (now : Instant) :
    (w.forgetExpired now).store.backend = w.store.backend := rfl

@[simp] theorem forgetExpired_memos (now : Instant) :
    (w.forgetExpired now).store.memos =
      w.store.memos.filter fun e => e.2.expiresAt.sinceEpoch > now.sinceEpoch := rfl

@[simp] theorem setTick_gate (tick : Nat) : (Ticking.setTick w tick).gate name permits = w.gate name permits :=
  rfl

@[simp] theorem setTick_gates (tick : Nat) : (Ticking.setTick w tick).gates = w.gates := rfl

@[simp] theorem setTick_inFlight (tick : Nat) : (Ticking.setTick w tick).inFlight = w.inFlight := rfl

@[simp] theorem setTick_store (tick : Nat) : (Ticking.setTick w tick).store = w.store := rfl

@[simp] theorem setTick_timed (tick : Nat) : (Ticking.setTick w tick).timed = w.timed := rfl

@[simp] theorem setTick_manual (tick : Nat) : (Ticking.setTick w tick).manual = w.manual := rfl

@[simp] theorem setTick_tick (tick : Nat) : (Ticking.setTick w tick).tick = tick := rfl

end World

theorem Action.record_eq (e : RuntimeEvent) : Action.record e = Proc.modify (·.recordEvent e) := rfl

/-! ## The store in memory

A store in memory is always available and keeps instants as they are. -/

namespace Store

variable {s : Store} (hmem : s.backend = .memory)
include hmem

theorem available_of_memory : s.available = .ok () := by
  simp [available, hmem]

theorem remembered_of_memory (key : String) (now : Instant) :
    s.remembered key now = .ok ((s.memos.get? key).bind fun m =>
      if m.expiresAt.sinceEpoch > now.sinceEpoch then some m.value else none) := by
  simp only [remembered, available_of_memory hmem, stamp, hmem, Backend.stamp]
  cases s.memos.get? key <;> rfl

theorem remember_of_memory (key value : String) (expiresAt : Instant) :
    s.remember key value expiresAt = .ok { s with memos := s.memos.put key ⟨value, expiresAt⟩ } := by
  simp only [remember, available_of_memory hmem, stamp, hmem, Backend.stamp]
  rfl

theorem purgeMemos_of_memory (now : Instant) :
    s.purgeMemos now = .ok (s.memos.length -
        (s.memos.filter fun e => e.2.expiresAt.sinceEpoch > now.sinceEpoch).length,
      { s with memos := s.memos.filter fun e => e.2.expiresAt.sinceEpoch > now.sinceEpoch }) := by
  simp only [purgeMemos, available_of_memory hmem, stamp, hmem, Backend.stamp]
  rfl

end Store

/-! ## Turns of the store's operations and of the gate's

With the store in memory nothing here waits, except a caller queued at a gate. -/

namespace Action

open Proc

variable {α β : Type} {w w' : World} {q : Action β}

theorem turn_awaitStore_bind (hmem : w.store.backend = .memory) (r : Except AgentError α)
    (k : Except AgentError α → Action β) :
    Turn w ((awaitStore r).bind k) w' q ↔ Turn w (k r) w' q := by
  simp [awaitStore, Proc.bind, hmem]

theorem turn_inspect_bind (hmem : w.store.backend = .memory) (f : Store → Except AgentError α)
    (k : Except AgentError α → Action β) :
    Turn w ((inspect f).bind k) w' q ↔ Turn w (k (f w.store)) w' q := by
  simp only [inspect, bind_eq, Proc.bind, turn_read]
  exact turn_awaitStore_bind hmem _ _

theorem turn_now_bind (k : Instant → Action β) : Turn w (now.bind k) w' q ↔ Turn w (k w.now) w' q := by
  simp [now, Proc.bind]

theorem turn_modify (f : World → World) {q : Action Unit} :
    Turn w (Proc.modify f) w' q ↔ w' = f w ∧ q = .pure () := by
  simp [Proc.modify, turn_pure]

theorem turn_modify_bind (f : World → World) (k : Unit → Action β) :
    Turn w ((Proc.modify f).bind k) w' q ↔ Turn (f w) (k ()) w' q := by
  simp [Proc.modify, Proc.bind]

theorem turn_record_bind (e : RuntimeEvent) (k : Unit → Action β) :
    Turn w ((record e).bind k) w' q ↔ Turn (w.recordEvent e) (k ()) w' q := by
  rw [record_eq, turn_modify_bind]

theorem turn_withExit (exit : World → World) (body : Action β) :
    Turn w (withExit exit body) w' q ↔
      (∃ body', Turn w body w' body' ∧ body'.result? = none ∧ q = withExit exit body') ∨
        ∃ w₁ b, Turn w body w₁ (.pure b) ∧ w' = exit w₁ ∧ q = .pure b := by
  simp only [withExit, guarded, bind_eq, pure_eq]
  rw [turn_bind]
  constructor
  · rintro (⟨p', hp', hrun, rfl⟩ | ⟨w₁, b, hg, hk⟩)
    · rcases turn_guard.1 hp' with ⟨body', hb, hbrun, rfl⟩ | ⟨w₂, b, -, hend⟩
      · exact .inl ⟨body', hb, hbrun, rfl⟩
      · obtain ⟨-, rfl⟩ := turn_pure.1 hend
        simp [result?] at hrun
    · rcases turn_guard.1 hg with ⟨body', -, -, hbad⟩ | ⟨w₂, b', hb, hend⟩
      · cases hbad
      · obtain ⟨rfl, hb'⟩ := turn_pure.1 hend
        cases hb'
        simp only [turn_modify_bind, turn_pure] at hk
        exact .inr ⟨_, b, hb, hk⟩
  · rintro (⟨body', hb, hbrun, rfl⟩ | ⟨w₁, b, hb, rfl, rfl⟩)
    · refine .inl ⟨.guard _ _ body' .pure, turn_guard.2 (.inl ⟨body', hb, hbrun, rfl⟩), rfl, rfl⟩
    · refine .inr ⟨w₁, b, turn_guard.2 (.inr ⟨w₁, b, hb, turn_pure.2 ⟨rfl, rfl⟩⟩), ?_⟩
      simp [turn_modify_bind, turn_pure]

theorem turn_holding (name : String) (permits : Nat) (body : Action β) :
    Turn w (holding name permits body) w' q ↔
      (∃ body', Turn w body w' body' ∧ body'.result? = none ∧ q = holding name permits body') ∨
        ∃ w₁ b, Turn w body w₁ (.pure b) ∧ w' = w₁.changeGate name permits Gate.leave ∧
          q = .pure b :=
  turn_withExit _ body

theorem turn_awaitPermit (name : String) (permits ticket : Nat) {q : Action Unit} :
    Turn w (awaitPermit name permits ticket) w' q ↔
      (w' = w ∧ q = awaitPermit name permits ticket) ∨
        ((w.gate name permits).isHanded ticket = true ∧
          w' = w.changeGate name permits (·.pickUp ticket) ∧ q = .pure ()) := by
  simp only [awaitPermit, guarded, waitFor, bind_eq, Proc.bind]
  rw [turn_guard]
  constructor
  · rintro (⟨body', hb, hrun, rfl⟩ | ⟨w₁, b, hb, hend⟩)
    · rcases turn_await.1 hb with ⟨rfl, rfl⟩ | ⟨-, hb'⟩
      · exact .inl ⟨rfl, rfl⟩
      · obtain ⟨-, rfl⟩ := (turn_modify _).1 hb'
        simp [result?] at hrun
    · rcases turn_await.1 hb with ⟨-, hbad⟩ | ⟨hready, hb'⟩
      · cases hbad
      · obtain ⟨rfl, hb'⟩ := (turn_modify _).1 hb'
        cases hb'
        obtain ⟨rfl, rfl⟩ := turn_pure.1 hend
        exact .inr ⟨hready, rfl, rfl⟩
  · rintro (⟨rfl, rfl⟩ | ⟨hready, rfl, rfl⟩)
    · exact .inl ⟨_, turn_await.2 (.inl ⟨rfl, rfl⟩), rfl, rfl⟩
    · exact .inr ⟨_, (), turn_await.2 (.inr ⟨hready, (turn_modify _).2 ⟨rfl, rfl⟩⟩),
        turn_pure.2 ⟨rfl, rfl⟩⟩

theorem turn_update_bind {f : Store → Except AgentError (α × Store)} {a : α} {s : Store}
    (hf : f w.store = .ok (a, s)) (hmem : s.backend = .memory) (k : Except AgentError α → Action β) :
    Turn w ((update f).bind k) w' q ↔ Turn { w with store := s } (k (.ok a)) w' q := by
  simp only [update, bind_eq, Proc.modifyGet, Proc.bind, turn_read, hf, turn_write]
  exact turn_awaitStore_bind hmem _ _

theorem turn_withExit_congr (exit : World → World) {w₁ : World} {body₁ body₂ : Action β}
    (h : ∀ w' q, Turn w body₁ w' q ↔ Turn w₁ body₂ w' q) :
    Turn w (withExit exit body₁) w' q ↔ Turn w₁ (withExit exit body₂) w' q := by
  simp only [turn_withExit, h]

end Action

/-! ## Callers -/

namespace IdempotencyGuard

/-- What the operation a caller runs, and anything that runs beside the callers, must leave
alone: the key's lock and its claims in the in-flight map, the results remembered under the key,
where the store keeps its records, and the count of tickets handed out. -/
structure Keeps (key : String) (w w' : World) : Prop where
  lock : w'.gates.get? (lockName key) = w.gates.get? (lockName key)
  claims : w'.inFlight.get? key = w.inFlight.get? key
  records : w'.recordsOf key = w.recordsOf key
  backend : w'.store.backend = w.store.backend
  tickets : w.nextTicket ≤ w'.nextTicket

theorem Keeps.gate {key : String} {w w' : World} (h : Keeps key w w') :
    w'.gate (lockName key) 1 = w.gate (lockName key) 1 := by
  rw [World.gate, World.gate, h.lock]

theorem Keeps.refl (key : String) (w : World) : Keeps key w w := ⟨rfl, rfl, rfl, rfl, Nat.le_refl _⟩

theorem Keeps.trans {key : String} {w₁ w₂ w₃ : World} (h₁ : Keeps key w₁ w₂) (h₂ : Keeps key w₂ w₃) :
    Keeps key w₁ w₃ :=
  ⟨h₂.lock.trans h₁.lock, h₂.claims.trans h₁.claims, h₂.records.trans h₁.records,
    h₂.backend.trans h₁.backend, Nat.le_trans h₁.tickets h₂.tickets⟩

theorem Keeps.setTick (key : String) (w : World) (tick : Nat) : Keeps key w (Ticking.setTick w tick) :=
  ⟨rfl, rfl, rfl, rfl, Nat.le_refl _⟩

/-- Where a caller of `ensure` is between two of its turns. -/
inductive Caller (α : Type) where
  /-- Called, with no claim on the key yet. -/
  | start (op : Action (Except Fault α))
  /-- Queued at the key's lock under its ticket. -/
  | queued (ticket : Nat) (op : Action (Except Fault α))
  /-- Through the lock, about to look the key up. -/
  | admitted (op : Action (Except Fault α))
  /-- Running what is left of its operation, with the permit in hand. -/
  | running (rest : Action (Except Fault α))
  /-- Returned, its claim dropped. -/
  | finished (result : Except Fault α)

/-- What the callers of a guard do that can be told apart from outside. -/
inductive GuardEvent (α : Type) where
  /-- A lookup at `now` found nothing live, and the operation started. -/
  | started (now : Instant)
  /-- A lookup found a remembered result, and the caller returned it. -/
  | replayed (result : Except Fault α)
  /-- A success was remembered at `now`. -/
  | recorded (value : α) (now : Instant)
  /-- A purge at `now` forgot the results expired by then. -/
  | purged (now : Instant)

/-- The events of an operation that ended with `r` at `now`: a success is remembered. -/
def GuardEvent.ofResult {α : Type} (now : Instant) : Except Fault α → List (GuardEvent α)
  | .ok v => [.recorded v now]
  | .error _ => []

variable {α : Type} (g : IdempotencyGuard) (key : String) (keeping : Keeping α)

/-- The world after an operation's result is kept: a success is remembered until its time to
live has passed. -/
def settled (w : World) : Except Fault α → World
  | .ok v => w.keep key ⟨keeping.encode v, w.now.add g.ttl⟩
  | .error _ => w

@[simp] theorem settled_gate (w : World) (r : Except Fault α) (name : String) (permits : Nat) :
    (settled g key keeping w r).gate name permits = w.gate name permits := by
  cases r <;> rfl

@[simp] theorem settled_nextTicket (w : World) (r : Except Fault α) :
    (settled g key keeping w r).nextTicket = w.nextTicket := by
  cases r <;> rfl

@[simp] theorem settled_now (w : World) (r : Except Fault α) :
    (settled g key keeping w r).now = w.now := by
  cases r <;> rfl

@[simp] theorem settled_backend (w : World) (r : Except Fault α) :
    (settled g key keeping w r).store.backend = w.store.backend := by
  cases r <;> rfl

@[simp] theorem settled_gates (w : World) (r : Except Fault α) :
    (settled g key keeping w r).gates = w.gates := by
  cases r <;> rfl

@[simp] theorem settled_inFlight (w : World) (r : Except Fault α) :
    (settled g key keeping w r).inFlight = w.inFlight := by
  cases r <;> rfl

/-- The process left of a call at each place inside the caller's claim on the key. -/
def Caller.held : Caller α → Action (Except Fault α)
  | .start op => Action.through (lockName key) 1 (g.lookupOrRun key keeping op)
  | .queued t op => (Action.awaitPermit (lockName key) 1 t).bind fun _ =>
      Action.holding (lockName key) 1 (g.lookupOrRun key keeping op)
  | .admitted op => Action.holding (lockName key) 1 (g.lookupOrRun key keeping op)
  | .running rest => Action.holding (lockName key) 1 (rest.bind (g.keepResult key keeping))
  | .finished r => .pure r

/-- The process left of a call at each place: a caller holding a claim drops it when what it
holds ends. -/
def Caller.term : Caller α → Action (Except Fault α)
  | .start op => g.ensure key keeping op
  | .queued t op => Action.withExit (·.unclaim key) ((Caller.queued t op).held g key keeping)
  | .admitted op => Action.withExit (·.unclaim key) ((Caller.admitted op).held g key keeping)
  | .running rest => Action.withExit (·.unclaim key) ((Caller.running rest).held g key keeping)
  | .finished r => .pure r

/-- One turn of a caller, with the events it gives. -/
inductive Caller.Move : World → Caller α → List (GuardEvent α) → World → Caller α → Prop
  /-- It claims the key, arrives at its lock, finds the permit taken, and queues up. -/
  | queue {w w₁ w' : World} {t : Nat} {op : Action (Except Fault α)} {evs : List (GuardEvent α)}
      {c' : Caller α} (harrive : (w.claim key).arrive (lockName key) 1 = ((t, false), w₁))
      (h : Caller.Move w₁ (.queued t op) evs w' c') : Caller.Move w (.start op) evs w' c'
  /-- It claims the key, arrives at its lock and takes the free permit. -/
  | enter {w w₁ w' : World} {t : Nat} {op : Action (Except Fault α)} {evs : List (GuardEvent α)}
      {c' : Caller α} (harrive : (w.claim key).arrive (lockName key) 1 = ((t, true), w₁))
      (h : Caller.Move w₁ (.admitted op) evs w' c') : Caller.Move w (.start op) evs w' c'
  /-- It stays queued. -/
  | wait {w : World} {t : Nat} {op : Action (Except Fault α)} :
      Caller.Move w (.queued t op) [] w (.queued t op)
  /-- It picks up the permit it was handed. -/
  | pickUp {w w' : World} {t : Nat} {op : Action (Except Fault α)} {evs : List (GuardEvent α)}
      {c' : Caller α} (hhanded : (w.gate (lockName key) 1).isHanded t = true)
      (h : Caller.Move (w.changeGate (lockName key) 1 (·.pickUp t)) (.admitted op) evs w' c') :
      Caller.Move w (.queued t op) evs w' c'
  /-- The key has a live result: it is replayed, the permit given back and the claim dropped. -/
  | replay {w : World} {s : String} {op : Action (Except Fault α)}
      (hfound : w.store.remembered key w.now = .ok (some s)) :
      Caller.Move w (.admitted op) [.replayed (keeping.decode s)]
        (((w.recordEvent (.idempotentReplay key)).changeGate (lockName key) 1 Gate.leave).unclaim key)
        (.finished (keeping.decode s))
  /-- The key has no live result: the operation starts. -/
  | run {w w' : World} {op : Action (Except Fault α)} {evs : List (GuardEvent α)} {c' : Caller α}
      (hnone : w.store.remembered key w.now = .ok none) (h : Caller.Move w (.running op) evs w' c') :
      Caller.Move w (.admitted op) (.started w.now :: evs) w' c'
  /-- The operation runs a turn and pauses. -/
  | pause {w w' : World} {q q' : Action (Except Fault α)} (ht : Proc.Turn w q w' q')
      (hrunning : q'.result? = none) : Caller.Move w (.running q) [] w' (.running q')
  /-- The operation finishes; its result is kept, the permit given back and the claim dropped. -/
  | finish {w w₁ : World} {q : Action (Except Fault α)} {r : Except Fault α}
      (ht : Proc.Turn w q w₁ (.pure r)) :
      Caller.Move w (.running q) (GuardEvent.ofResult w₁.now r)
        (((settled g key keeping w₁ r).changeGate (lockName key) 1 Gate.leave).unclaim key)
        (.finished r)
  /-- A caller that has returned stays so. -/
  | done {w : World} {r : Except Fault α} : Caller.Move w (.finished r) [] w (.finished r)

/-! ## What a turn of each part of `ensure` does -/

open Proc

variable {w w' : World} {p : Action (Except Fault α)}

theorem turn_keepResult (hmem : w.store.backend = .memory) (r : Except Fault α) :
    Turn w (g.keepResult key keeping r) w' p ↔ w' = settled g key keeping w r ∧ p = .pure r := by
  cases r with
  | error e => simp [keepResult, settled, turn_pure]
  | ok v =>
    simp only [keepResult, bind_eq, pure_eq, Action.turn_now_bind]
    refine (Action.turn_update_bind (a := ())
      (s := (w.keep key ⟨keeping.encode v, w.now.add g.ttl⟩).store) ?_ hmem _).trans ?_
    · rw [Store.remember_of_memory hmem]
      rfl
    · rw [turn_pure]
      rfl

theorem turn_lookupOrRun_found (hmem : w.store.backend = .memory) {s : String}
    (hfound : w.store.remembered key w.now = .ok (some s)) (op : Action (Except Fault α)) :
    Turn w (g.lookupOrRun key keeping op) w' p ↔
      w' = w.recordEvent (.idempotentReplay key) ∧ p = .pure (keeping.decode s) := by
  simp only [lookupOrRun, bind_eq, pure_eq, Action.turn_now_bind]
  rw [Action.turn_inspect_bind hmem]
  simp only [hfound, Action.turn_record_bind, turn_pure]

theorem turn_lookupOrRun_none (hmem : w.store.backend = .memory)
    (hnone : w.store.remembered key w.now = .ok none) (op : Action (Except Fault α)) :
    Turn w (g.lookupOrRun key keeping op) w' p ↔ Turn w (op.bind (g.keepResult key keeping)) w' p := by
  simp only [lookupOrRun, bind_eq, Action.turn_now_bind]
  rw [Action.turn_inspect_bind hmem]
  simp only [hnone]

theorem turn_purge (hmem : w.store.backend = .memory) {q : Action (Except AgentError Nat)} :
    Turn w g.purge w' q ↔
      w' = w.forgetExpired w.now ∧
        q = .pure (.ok (w.store.memos.length - (w.forgetExpired w.now).store.memos.length)) := by
  simp only [purge, bind_eq, Action.turn_now_bind]
  rw [← bind_pure (Action.update _),
    Action.turn_update_bind (Store.purgeMemos_of_memory hmem _) (by exact hmem),
    turn_pure]
  rfl

theorem of_arrive_eq {w w₁ : World} {name : String} {permits t : Nat} {entered : Bool}
    (h : w.arrive name permits = ((t, entered), w₁)) :
    t = w.nextTicket ∧ entered = ((w.gate name permits).arrive w.nextTicket).1 ∧
      w₁.gate name permits = ((w.gate name permits).arrive w.nextTicket).2 ∧
      w₁.nextTicket = w.nextTicket + 1 ∧ w₁.store = w.store ∧ w₁.now = w.now := by
  have hparts := congrArg (fun a => (a.1.1, a.1.2, a.2)) h
  simp only [World.arrive_eq, Prod.mk.injEq] at hparts
  obtain ⟨rfl, rfl, rfl⟩ := hparts
  exact ⟨rfl, rfl, by simp [World.gate, Keyed.get?_put_self], rfl, rfl, rfl⟩

theorem of_claim_arrive {w w₁ : World} {t : Nat} {entered : Bool}
    (h : (w.claim key).arrive (lockName key) 1 = ((t, entered), w₁)) :
    t = w.nextTicket ∧ entered = ((w.gate (lockName key) 1).arrive w.nextTicket).1 ∧
      w₁.gate (lockName key) 1 = ((w.gate (lockName key) 1).arrive w.nextTicket).2 ∧
      w₁.nextTicket = w.nextTicket + 1 ∧ w₁.store = w.store ∧ w₁.now = w.now ∧
      w₁.inFlight.get? key = some (w.claims key + 1) := by
  have hw₁ : w₁ = ((w.claim key).arrive (lockName key) 1).2 := by rw [h]
  obtain ⟨ht, hentered, hgate, hnext, hstore, hnow⟩ := of_arrive_eq h
  refine ⟨ht, hentered, hgate, hnext, hstore, hnow, ?_⟩
  rw [hw₁, World.arrive_inFlight, World.inFlight_claim]

/-! ## What a turn of a caller does at each place

Inside its claim a caller does what a caller of the lock does; the claim only adds its drop
once what it holds has ended. -/

theorem turn_held_queued (t : Nat) (op : Action (Except Fault α)) :
    Turn w ((Caller.queued t op).held g key keeping) w' p ↔
      (w' = w ∧ p = (Caller.queued t op).held g key keeping) ∨
        ((w.gate (lockName key) 1).isHanded t = true ∧
          Turn (w.changeGate (lockName key) 1 (·.pickUp t)) ((Caller.admitted op).held g key keeping)
            w' p) := by
  simp only [Caller.held]
  rw [turn_bind]
  constructor
  · rintro (⟨p', hp', hrun, rfl⟩ | ⟨w₁, a, hp, hk⟩)
    · rcases (Action.turn_awaitPermit _ _ _).1 hp' with ⟨rfl, rfl⟩ | ⟨-, -, rfl⟩
      · exact .inl ⟨rfl, rfl⟩
      · simp [result?] at hrun
    · rcases (Action.turn_awaitPermit _ _ _).1 hp with ⟨-, hbad⟩ | ⟨hhanded, rfl, -⟩
      · cases hbad
      · exact .inr ⟨hhanded, hk⟩
  · rintro (⟨rfl, rfl⟩ | ⟨hhanded, hk⟩)
    · exact .inl ⟨_, (Action.turn_awaitPermit _ _ _).2 (.inl ⟨rfl, rfl⟩), rfl, rfl⟩
    · exact .inr ⟨_, (), (Action.turn_awaitPermit _ _ _).2 (.inr ⟨hhanded, rfl, rfl⟩), hk⟩

theorem turn_held_admitted_found (hmem : w.store.backend = .memory) {s : String}
    (hfound : w.store.remembered key w.now = .ok (some s)) (op : Action (Except Fault α)) :
    Turn w ((Caller.admitted op).held g key keeping) w' p ↔
      w' = (w.recordEvent (.idempotentReplay key)).changeGate (lockName key) 1 Gate.leave ∧
        p = .pure (keeping.decode s) := by
  simp only [Caller.held]
  rw [Action.turn_holding]
  simp only [turn_lookupOrRun_found g key keeping hmem hfound]
  constructor
  · rintro (⟨body', ⟨-, rfl⟩, hrun, -⟩ | ⟨w₁, b, ⟨rfl, hb⟩, rfl, rfl⟩)
    · simp [result?] at hrun
    · cases hb
      exact ⟨rfl, rfl⟩
  · rintro ⟨rfl, rfl⟩
    exact .inr ⟨_, _, ⟨rfl, rfl⟩, rfl, rfl⟩

theorem turn_held_running (hmem : w.store.backend = .memory) {q : Action (Except Fault α)}
    (hq : Confined (Keeps key) q) :
    Turn w ((Caller.running q).held g key keeping) w' p ↔
      (∃ q', Turn w q w' q' ∧ q'.result? = none ∧ p = (Caller.running q').held g key keeping) ∨
        ∃ w₁ r, Turn w q w₁ (.pure r) ∧
          w' = (settled g key keeping w₁ r).changeGate (lockName key) 1 Gate.leave ∧ p = .pure r := by
  have hkeep : ∀ {w₁ r}, Turn w q w₁ (.pure r) → ∀ {w₂ b},
      Turn w₁ (g.keepResult key keeping r) w₂ b ↔ w₂ = settled g key keeping w₁ r ∧ b = .pure r :=
    fun hqr => turn_keepResult g key keeping ((hq.turn hqr).1.backend.trans hmem) _
  simp only [Caller.held]
  rw [Action.turn_holding]
  constructor
  · rintro (⟨body', hb, hrun, rfl⟩ | ⟨w₂, b, hb, rfl, rfl⟩)
    · rcases turn_bind.1 hb with ⟨q', hq', hq'run, rfl⟩ | ⟨w₁, r, hqr, hk⟩
      · exact .inl ⟨q', hq', hq'run, rfl⟩
      · obtain ⟨-, rfl⟩ := (hkeep hqr).1 hk
        simp [result?] at hrun
    · rcases turn_bind.1 hb with ⟨q', -, hq'run, hbad⟩ | ⟨w₁, r, hqr, hk⟩
      · have hnone := result?_bind hq'run (g.keepResult key keeping)
        rw [← hbad] at hnone
        simp [result?] at hnone
      · obtain ⟨rfl, hr⟩ := (hkeep hqr).1 hk
        cases hr
        exact .inr ⟨w₁, _, hqr, rfl, rfl⟩
  · rintro (⟨q', hq', hq'run, rfl⟩ | ⟨w₁, r, hqr, rfl, rfl⟩)
    · exact .inl ⟨_, turn_bind.2 (.inl ⟨q', hq', hq'run, rfl⟩), result?_bind hq'run _, rfl⟩
    · exact .inr ⟨_, r, turn_bind.2 (.inr ⟨w₁, r, hqr, (hkeep hqr).2 ⟨rfl, rfl⟩⟩), rfl, rfl⟩

theorem turn_start (op : Action (Except Fault α)) {t : Nat} {entered : Bool} {w₁ : World}
    (harrive : (w.claim key).arrive (lockName key) 1 = ((t, entered), w₁)) :
    Turn w ((Caller.start op).term g key keeping) w' p ↔
      Turn w₁ (if entered then (Caller.admitted op).term g key keeping
        else (Caller.queued t op).term g key keeping) w' p := by
  have hheld : ∀ w' p, Turn (w.claim key) ((Caller.start op).held g key keeping) w' p ↔
      Turn w₁ (if entered then (Caller.admitted op).held g key keeping
        else (Caller.queued t op).held g key keeping) w' p := by
    intro w' p
    simp only [Caller.held, Action.through, bind_eq, Proc.modifyGet, Proc.bind, turn_read, harrive,
      turn_write]
    cases entered <;> rfl
  simp only [Caller.term, ensure, bind_eq, Action.turn_modify_bind]
  refine (Action.turn_withExit_congr _ hheld).trans ?_
  cases entered <;> exact Iff.rfl

theorem turn_queued (t : Nat) (op : Action (Except Fault α)) :
    Turn w ((Caller.queued t op).term g key keeping) w' p ↔
      (w' = w ∧ p = (Caller.queued t op).term g key keeping) ∨
        ((w.gate (lockName key) 1).isHanded t = true ∧
          Turn (w.changeGate (lockName key) 1 (·.pickUp t)) ((Caller.admitted op).term g key keeping)
            w' p) := by
  have hwaiting : ((Caller.queued t op).held g key keeping).result? = none := rfl
  simp only [Caller.term]
  rw [Action.turn_withExit, Action.turn_withExit]
  simp only [turn_held_queued]
  constructor
  · rintro (⟨body', ⟨rfl, rfl⟩ | ⟨hhanded, hb⟩, hrun, rfl⟩ |
      ⟨w₁, b, ⟨-, hbad⟩ | ⟨hhanded, hb⟩, rfl, rfl⟩)
    · exact .inl ⟨rfl, rfl⟩
    · exact .inr ⟨hhanded, .inl ⟨body', hb, hrun, rfl⟩⟩
    · rw [← hbad] at hwaiting
      simp [result?] at hwaiting
    · exact .inr ⟨hhanded, .inr ⟨w₁, b, hb, rfl, rfl⟩⟩
  · rintro (⟨rfl, rfl⟩ | ⟨hhanded, ⟨body', hb, hrun, rfl⟩ | ⟨w₁, b, hb, rfl, rfl⟩⟩)
    · exact .inl ⟨_, .inl ⟨rfl, rfl⟩, hwaiting, rfl⟩
    · exact .inl ⟨body', .inr ⟨hhanded, hb⟩, hrun, rfl⟩
    · exact .inr ⟨w₁, b, .inr ⟨hhanded, hb⟩, rfl, rfl⟩

theorem turn_admitted_found (hmem : w.store.backend = .memory) {s : String}
    (hfound : w.store.remembered key w.now = .ok (some s)) (op : Action (Except Fault α)) :
    Turn w ((Caller.admitted op).term g key keeping) w' p ↔
      w' = ((w.recordEvent (.idempotentReplay key)).changeGate (lockName key) 1 Gate.leave).unclaim key ∧
        p = .pure (keeping.decode s) := by
  simp only [Caller.term]
  rw [Action.turn_withExit]
  simp only [turn_held_admitted_found g key keeping hmem hfound]
  constructor
  · rintro (⟨body', ⟨-, rfl⟩, hrun, -⟩ | ⟨w₁, b, ⟨rfl, hb⟩, rfl, rfl⟩)
    · simp [result?] at hrun
    · cases hb
      exact ⟨rfl, rfl⟩
  · rintro ⟨rfl, rfl⟩
    exact .inr ⟨_, _, ⟨rfl, rfl⟩, rfl, rfl⟩

theorem turn_admitted_none (hmem : w.store.backend = .memory)
    (hnone : w.store.remembered key w.now = .ok none) (op : Action (Except Fault α)) :
    Turn w ((Caller.admitted op).term g key keeping) w' p ↔
      Turn w ((Caller.running op).term g key keeping) w' p :=
  Action.turn_withExit_congr _ fun _ _ =>
    Action.turn_withExit_congr _ fun _ _ => turn_lookupOrRun_none g key keeping hmem hnone op

theorem turn_running (hmem : w.store.backend = .memory) {q : Action (Except Fault α)}
    (hq : Confined (Keeps key) q) :
    Turn w ((Caller.running q).term g key keeping) w' p ↔
      (∃ q', Turn w q w' q' ∧ q'.result? = none ∧ p = (Caller.running q').term g key keeping) ∨
        ∃ w₁ r, Turn w q w₁ (.pure r) ∧
          w' = ((settled g key keeping w₁ r).changeGate (lockName key) 1 Gate.leave).unclaim key ∧
            p = .pure r := by
  simp only [Caller.term]
  rw [Action.turn_withExit]
  simp only [turn_held_running g key keeping hmem hq]
  constructor
  · rintro (⟨body', ⟨q', hq', hq'run, rfl⟩ | ⟨w₁, r, -, -, rfl⟩, hrun, rfl⟩ |
      ⟨w₂, b, ⟨q', -, -, hbad⟩ | ⟨w₁, r, hqr, rfl, hb⟩, rfl, rfl⟩)
    · exact .inl ⟨q', hq', hq'run, rfl⟩
    · simp [result?] at hrun
    · -- what is held while the operation runs has not finished
      have hheld : ((Caller.running q').held g key keeping).result? = none := rfl
      rw [← hbad] at hheld
      simp [result?] at hheld
    · cases hb
      exact .inr ⟨w₁, _, hqr, rfl, rfl⟩
  · rintro (⟨q', hq', hq'run, rfl⟩ | ⟨w₁, r, hqr, rfl, rfl⟩)
    · exact .inl ⟨_, .inl ⟨q', hq', hq'run, rfl⟩, rfl, rfl⟩
    · exact .inr ⟨_, r, .inr ⟨w₁, r, hqr, rfl, rfl⟩, rfl, rfl⟩

/-! ## The turns of a caller are its moves -/

/-- The operation of a caller leaves the key's records alone, whatever it has turned into. -/
def Caller.Confined (key : String) : Caller α → Prop
  | .start op | .queued _ op | .admitted op | .running op => Proc.Confined (Keeps key) op
  | .finished _ => True

theorem Caller.Move.confined {c c' : Caller α} {evs : List (GuardEvent α)}
    (h : Caller.Move g key keeping w c evs w' c') (hc : c.Confined key) : c'.Confined key := by
  induction h with
  | queue _ _ ih | enter _ _ ih | pickUp _ _ ih | run _ _ ih => exact ih hc
  | wait | done => exact hc
  | replay _ | finish _ => trivial
  | pause ht _ => exact (Confined.turn hc ht).2

section Moves

variable {w₁ : World} {op : Action (Except Fault α)} {evs : List (GuardEvent α)} {c' : Caller α}

theorem move_of_turn_running {q : Action (Except Fault α)} (hmem : w.store.backend = .memory)
    (hq : Confined (Keeps key) q) (h : Turn w ((Caller.running q).term g key keeping) w' p) :
    ∃ evs c', Caller.Move g key keeping w (.running q) evs w' c' ∧ c'.term g key keeping = p := by
  rcases (turn_running g key keeping hmem hq).1 h with ⟨q', ht, hrun, rfl⟩ | ⟨w₁, r, ht, rfl, rfl⟩
  · exact ⟨[], _, .pause ht hrun, rfl⟩
  · exact ⟨_, _, .finish ht, rfl⟩

theorem move_of_turn_admitted (hmem : w.store.backend = .memory) (hop : Confined (Keeps key) op)
    (h : Turn w ((Caller.admitted op).term g key keeping) w' p) :
    ∃ evs c', Caller.Move g key keeping w (.admitted op) evs w' c' ∧ c'.term g key keeping = p := by
  cases hfound : (w.store.memos.get? key).bind fun m =>
      if m.expiresAt.sinceEpoch > w.now.sinceEpoch then some m.value else none with
  | some s =>
    have hlookup := Store.remembered_of_memory hmem key w.now
    rw [hfound] at hlookup
    obtain ⟨rfl, rfl⟩ := (turn_admitted_found g key keeping hmem hlookup op).1 h
    exact ⟨_, _, .replay hlookup, rfl⟩
  | none =>
    have hlookup := Store.remembered_of_memory hmem key w.now
    rw [hfound] at hlookup
    rw [turn_admitted_none g key keeping hmem hlookup] at h
    obtain ⟨evs, c', hmove, rfl⟩ := move_of_turn_running g key keeping hmem hop h
    exact ⟨_, c', .run hlookup hmove, rfl⟩

theorem move_of_turn_queued {t : Nat} (hmem : w.store.backend = .memory)
    (hop : Confined (Keeps key) op) (h : Turn w ((Caller.queued t op).term g key keeping) w' p) :
    ∃ evs c', Caller.Move g key keeping w (.queued t op) evs w' c' ∧ c'.term g key keeping = p := by
  rcases (turn_queued g key keeping t op).1 h with ⟨rfl, rfl⟩ | ⟨hhanded, h⟩
  · exact ⟨[], _, .wait, rfl⟩
  · obtain ⟨evs, c', hmove, rfl⟩ :=
      move_of_turn_admitted g key keeping (w := w.changeGate (lockName key) 1 (·.pickUp t)) hmem hop h
    exact ⟨evs, c', .pickUp hhanded hmove, rfl⟩

/-- With the store in memory, every turn of a caller whose operation leaves the key's records
alone is one of its moves. -/
theorem Caller.move_of_turn {c : Caller α} (hmem : w.store.backend = .memory)
    (hc : c.Confined key) (h : Turn w (c.term g key keeping) w' p) :
    ∃ evs c', Caller.Move g key keeping w c evs w' c' ∧ c'.term g key keeping = p := by
  cases c with
  | start op =>
    cases harrive : (w.claim key).arrive (lockName key) 1 with
    | mk arrival w₁ =>
      obtain ⟨t, entered⟩ := arrival
      rw [turn_start g key keeping op harrive] at h
      have hmem₁ : w₁.store.backend = .memory := by
        rw [(of_arrive_eq harrive).2.2.2.2.1, World.claim_store]
        exact hmem
      cases entered with
      | true =>
        obtain ⟨evs, c', hmove, rfl⟩ := move_of_turn_admitted g key keeping hmem₁ hc h
        exact ⟨evs, c', .enter harrive hmove, rfl⟩
      | false =>
        obtain ⟨evs, c', hmove, rfl⟩ := move_of_turn_queued g key keeping hmem₁ hc h
        exact ⟨evs, c', .queue harrive hmove, rfl⟩
  | queued t op => exact move_of_turn_queued g key keeping hmem hc h
  | admitted op => exact move_of_turn_admitted g key keeping hmem hc h
  | running q => exact move_of_turn_running g key keeping hmem hc h
  | finished r =>
    obtain ⟨rfl, rfl⟩ := turn_pure.1 h
    exact ⟨[], _, .done, rfl⟩

theorem Caller.turn_of_move {c : Caller α} (hmove : Caller.Move g key keeping w c evs w' c')
    (hmem : w.store.backend = .memory) (hc : c.Confined key) :
    Turn w (c.term g key keeping) w' (c'.term g key keeping) := by
  induction hmove with
  | @queue w w₁ _ t op _ _ harrive _ ih =>
    have hmem₁ : w₁.store.backend = .memory := by
      rw [(of_arrive_eq harrive).2.2.2.2.1, World.claim_store]
      exact hmem
    exact (turn_start g key keeping op harrive).2 (ih hmem₁ hc)
  | @enter w w₁ _ t op _ _ harrive _ ih =>
    have hmem₁ : w₁.store.backend = .memory := by
      rw [(of_arrive_eq harrive).2.2.2.2.1, World.claim_store]
      exact hmem
    exact (turn_start g key keeping op harrive).2 (ih hmem₁ hc)
  | wait => exact (turn_queued g key keeping _ _).2 (.inl ⟨rfl, rfl⟩)
  | pickUp hhanded _ ih => exact (turn_queued g key keeping _ _).2 (.inr ⟨hhanded, ih hmem hc⟩)
  | replay hfound => exact (turn_admitted_found g key keeping hmem hfound _).2 ⟨rfl, rfl⟩
  | run hnone _ ih => exact (turn_admitted_none g key keeping hmem hnone _).2 (ih hmem hc)
  | pause ht hrun => exact (turn_running g key keeping hmem hc).2 (.inl ⟨_, ht, hrun, rfl⟩)
  | finish ht => exact (turn_running g key keeping hmem hc).2 (.inr ⟨_, _, ht, rfl, rfl⟩)
  | done => exact turn_pure.2 ⟨rfl, rfl⟩

end Moves

/-! ## Dropping a caller -/

/-- The world after a caller is dropped: a queued caller leaves the queue or passes on the
permit it was handed, and one holding the permit drops what is left of its operation and gives
the permit back; then the claim is dropped. -/
def Caller.dropped (key : String) : Caller α → World → World
  | .start _, w => w
  | .queued t _, w => (w.changeGate (lockName key) 1 (·.abandon t)).unclaim key
  | .admitted _, w => (w.changeGate (lockName key) 1 Gate.leave).unclaim key
  | .running q, w => ((q.release w).1.changeGate (lockName key) 1 Gate.leave).unclaim key
  | .finished _, w => w

theorem release_bind_keepResult (q : Action (Except Fault α)) (w : World) :
    ((q.bind (g.keepResult key keeping)).release w).1 = (q.release w).1 := by
  rcases eq_pure_or_result?_eq_none q with ⟨r, rfl⟩ | hrun
  · -- a finished operation has only its result to keep, which holds nothing to give back
    cases r <;> rfl
  · rw [release_bind hrun]

theorem Caller.release_term (c : Caller α) (w : World) :
    ((c.term g key keeping).release w).1 = c.dropped key w := by
  cases c with
  | running q =>
    have hheld : (Proc.guard (fun w => w.changeGate (lockName key) 1 Gate.leave) (.pure ())
        (q.bind (g.keepResult key keeping)) Proc.pure : Action (Except Fault α)).result? = none := rfl
    show (((Caller.running q).held g key keeping).release w).1.unclaim key = _
    simp only [Caller.held, Action.holding, Action.withExit, guarded, bind_eq]
    rw [release_bind hheld, release_guard_fst, release_bind_keepResult]
    rfl
  | _ => rfl

end IdempotencyGuard

end ResilientAgent
