import ResilientAgent.Proofs.Idempotency.Callers
import ResilientAgent.Proofs.Process.Permits
import ResilientAgent.Service.Stack

/-!
# One key, many callers

Any number of callers of `ensure` for one key of a guard, over a store in memory, make a pool
(`GuardPool`). A step of the pool is a turn of one caller, the drop of one (a cancelled call),
a new call, anything else the world does that leaves the key's lock, claims and records alone
(the clock moving, other keys, other components), or a purge of expired results
(`GuardPool.Step`). Runs are sequences of such steps, in any order (`GuardPool.Run`).

What every run keeps (`Inv`):

* the key's lock accounts for the callers (`GateFits`): its one permit is free, handed to a
  queued caller, or held by the one caller through the lock, so operations never overlap;
* the key's entry in the in-flight map counts the callers that hold a claim, and the key and its
  lock leave the map with the last claim;
* the results remembered under the key are none, or the one the latest recorded success left:
  a failed or dropped operation records nothing (`RecordsFit`);
* the latest result is still remembered, or a purge at or after its expiry forgot it
  (`LatestKept`);
* every replay returns the latest result remembered before it, and every start of the operation
  comes at or after that result's expiry, unless a purge forgot it.

With a clock that never goes back (`ClockInv`), an operation starts only once every success
recorded before it has expired: two successful runs of the operation are a time to live apart.
A clock set back after a purge breaks that (`clock_set_back_reruns`).
-/

namespace ResilientAgent

namespace IdempotencyGuard

variable {α : Type}

/-! ## The key's gate and its callers -/

/-- Whether a caller is through the key's gate. -/
def Caller.holds : Caller α → Bool
  | .admitted _ | .running _ => true
  | _ => false

/-- The ticket a queued caller waits under. -/
def Caller.ticket? : Caller α → Option Nat
  | .queued t _ => some t
  | _ => none

/-- How many callers are through the gate. -/
def holders (cs : List (Caller α)) : Nat := cs.countP Caller.holds

/-- The tickets the callers wait under. -/
def tickets (cs : List (Caller α)) : List Nat := cs.filterMap Caller.ticket?

@[simp] theorem holders_nil : holders ([] : List (Caller α)) = 0 := rfl

@[simp] theorem tickets_nil : tickets ([] : List (Caller α)) = [] := rfl

theorem holders_cons (c : Caller α) (cs : List (Caller α)) :
    holders (c :: cs) = holders cs + if c.holds then 1 else 0 := by
  simp only [holders, List.countP_cons]

theorem tickets_cons (c : Caller α) (cs : List (Caller α)) :
    tickets (c :: cs) = c.ticket?.toList ++ tickets cs := by
  cases h : c.ticket? <;> simp [tickets, h]

/-- Whether a caller holds a claim on the key: from its arrival at the lock until it returns. -/
def Caller.claims : Caller α → Bool
  | .queued _ _ | .admitted _ | .running _ => true
  | _ => false

/-- How many callers hold a claim on the key. -/
def claimants (cs : List (Caller α)) : Nat := cs.countP Caller.claims

/-- The in-flight entry of a key with `n` claims on it: none without claims. -/
def claimsEntry (n : Nat) : Option Nat := if n = 0 then none else some n

@[simp] theorem claimants_nil : claimants ([] : List (Caller α)) = 0 := rfl

theorem claimants_cons (c : Caller α) (cs : List (Caller α)) :
    claimants (c :: cs) = claimants cs + if c.claims then 1 else 0 := by
  simp only [claimants, List.countP_cons]

@[simp] theorem claimsEntry_succ (n : Nat) : claimsEntry (n + 1) = some (n + 1) := rfl

theorem claims_of_entry {w : World} {key : String} {n : Nat}
    (h : w.inFlight.get? key = claimsEntry n) : w.claims key = n := by
  unfold World.claims claimsEntry at *
  split at h <;> simp_all

theorem holders_tickets_of_claimants {cs : List (Caller α)} (h : claimants cs = 0) :
    holders cs = 0 ∧ tickets cs = [] := by
  induction cs with
  | nil => exact ⟨rfl, rfl⟩
  | cons c cs ih =>
    rw [claimants_cons] at h
    cases c <;> simp_all [holders_cons, tickets_cons, Caller.claims, Caller.holds, Caller.ticket?]

/-- The key's gate accounts for the callers, who wait under tickets already handed out. -/
structure GateFits (G : Gate) (next : Nat) (cs : List (Caller α)) : Prop where
  accounts : G.Accounts 1 (holders cs) (tickets cs)
  issued : ∀ t ∈ tickets cs, t < next

namespace GateFits

variable {G : Gate} {next : Nat} {c c' : Caller α} {cs : List (Caller α)}
  {op : Action (Except Fault α)}

theorem perm {cs' : List (Caller α)} (h : GateFits G next cs) (hp : cs.Perm cs') :
    GateFits G next cs' := by
  obtain ⟨haccounts, hissued⟩ := h
  have htickets : (tickets cs).Perm (tickets cs') := hp.filterMap _
  refine ⟨?_, fun t ht => hissued t (htickets.mem_iff.2 ht)⟩
  rw [holders, ← hp.countP_eq]
  exact haccounts.perm htickets

theorem mono {next' : Nat} (h : GateFits G next cs) (hnext : next ≤ next') : GateFits G next' cs :=
  ⟨h.accounts, fun t ht => Nat.lt_of_lt_of_le (h.issued t ht) hnext⟩

theorem of_eq {cs' : List (Caller α)} (h : GateFits G next cs) (hholders : holders cs' = holders cs)
    (htickets : tickets cs' = tickets cs) : GateFits G next cs' :=
  ⟨hholders ▸ htickets ▸ h.accounts, htickets ▸ h.issued⟩

theorem replace (h : GateFits G next (c :: cs)) (hholds : c'.holds = c.holds)
    (hticket : c'.ticket? = c.ticket?) : GateFits G next (c' :: cs) :=
  h.of_eq (by rw [holders_cons, holders_cons, hholds]) (by rw [tickets_cons, tickets_cons, hticket])

theorem eq_fresh (h : GateFits G next cs) (hnone : claimants cs = 0) : G = Gate.fresh 1 := by
  obtain ⟨hholders, htickets⟩ := holders_tickets_of_claimants hnone
  have haccounts := h.accounts
  rw [hholders, htickets] at haccounts
  exact haccounts.eq_fresh

theorem unclaim {w : World} {key : String} (h : GateFits (w.gate (lockName key) 1) next cs)
    (hlast : w.claims key ≤ 1 → claimants cs = 0) :
    GateFits ((w.unclaim key).gate (lockName key) 1) next cs := by
  rw [World.gate_unclaim]
  split
  · rename_i hle
    rw [← h.eq_fresh (hlast hle)]
    exact h
  · exact h

theorem cons_idle_iff (hholds : c.holds = false) (hticket : c.ticket? = none) :
    GateFits G next (c :: cs) ↔ GateFits G next cs := by
  have hholders : holders (c :: cs) = holders cs := by simp [holders_cons, hholds]
  have htickets : tickets (c :: cs) = tickets cs := by simp [tickets_cons, hticket]
  exact ⟨fun h => h.of_eq hholders.symm htickets.symm, fun h => h.of_eq hholders htickets⟩

theorem arrive (h : GateFits G next (.start op :: cs)) :
    GateFits (G.arrive next).2 (next + 1)
      ((if (G.arrive next).1 then Caller.admitted op else Caller.queued next op) :: cs) := by
  obtain ⟨haccounts, hissued⟩ := (cons_idle_iff rfl rfl).1 h
  have hnew : next ∉ tickets cs := fun ht => Nat.lt_irrefl _ (hissued next ht)
  have hnext := haccounts.arrive hnew
  cases hentered : (G.arrive next).1 with
  | true =>
    rw [hentered] at hnext
    refine ⟨?_, fun t ht => Nat.lt_succ_of_lt (hissued t ?_)⟩
    · simpa [holders_cons, tickets_cons, Caller.holds, Caller.ticket?] using hnext
    · simpa [tickets_cons, Caller.ticket?] using ht
  | false =>
    rw [hentered] at hnext
    refine ⟨?_, fun t ht => ?_⟩
    · simpa [holders_cons, tickets_cons, Caller.holds, Caller.ticket?] using hnext
    · simp [tickets_cons, Caller.ticket?] at ht
      rcases ht with rfl | ht
      · exact Nat.lt_succ_self _
      · exact Nat.lt_succ_of_lt (hissued t ht)

theorem pickUp {t : Nat} (h : GateFits G next (.queued t op :: cs)) (hhanded : G.isHanded t = true) :
    GateFits (G.pickUp t) next (.admitted op :: cs) := by
  obtain ⟨haccounts, hissued⟩ := h
  simp [holders_cons, tickets_cons, Caller.holds, Caller.ticket?] at haccounts hissued
  refine ⟨?_, fun t' ht' => hissued.2 t' ?_⟩
  · simpa [holders_cons, tickets_cons, Caller.holds, Caller.ticket?] using haccounts.pickUp hhanded
  · simpa [tickets_cons, Caller.ticket?] using ht'

theorem leave (h : GateFits G next (c :: cs)) (hholds : c.holds = true) (hticket : c.ticket? = none) :
    GateFits G.leave next cs := by
  obtain ⟨haccounts, hissued⟩ := h
  simp [holders_cons, tickets_cons, hholds, hticket] at haccounts hissued
  exact ⟨haccounts.leave, hissued⟩

theorem abandon {t : Nat} (h : GateFits G next (.queued t op :: cs)) : GateFits (G.abandon t) next cs := by
  obtain ⟨haccounts, hissued⟩ := h
  simp [holders_cons, tickets_cons, Caller.holds, Caller.ticket?] at haccounts hissued
  exact ⟨haccounts.abandon, hissued.2⟩

end GateFits

/-! ## The results remembered under the key -/

/-- The results remembered under `key` are none, or the one `m` says. -/
def RecordsFit (key : String) (records : Keyed Memo) (m : Option Memo) : Prop :=
  records = [] ∨ ∃ m', records = [(key, m')] ∧ m = some m'

theorem RecordsFit.length_le {key : String} {records : Keyed Memo} {m : Option Memo}
    (h : RecordsFit key records m) : records.length ≤ 1 := by
  rcases h with rfl | ⟨m', rfl, -⟩ <;> simp

variable (g : IdempotencyGuard) (key : String) (keeping : Keeping α)

/-- The result remembered after an event: a success recorded at `now` until its time to live has
passed. -/
def GuardEvent.remembers : Option Memo → GuardEvent α → Option Memo
  | _, .recorded v now => some ⟨keeping.encode v, now.add g.ttl⟩
  | m, _ => m

/-- The result the latest success of a trace left, or `init` if it records none. -/
def latestMemo (init : Option Memo) (tr : List (GuardEvent α)) : Option Memo :=
  tr.foldl (GuardEvent.remembers g keeping) init

/-- The results remembered under the key after an event: a recorded success replaces them. -/
def GuardEvent.keeps (records : Keyed Memo) : GuardEvent α → Keyed Memo
  | .recorded v now => [(key, ⟨keeping.encode v, now.add g.ttl⟩)]
  | _ => records

theorem RecordsFit.foldl {records : Keyed Memo} {m : Option Memo} (h : RecordsFit key records m)
    (evs : List (GuardEvent α)) :
    RecordsFit key (evs.foldl (GuardEvent.keeps g key keeping) records)
      (evs.foldl (GuardEvent.remembers g keeping) m) := by
  induction evs generalizing records m with
  | nil => exact h
  | cons e evs ih =>
    apply ih
    cases e with
    | recorded v t => exact .inr ⟨_, rfl, rfl⟩
    | started t => exact h
    | replayed r => exact h
    | purged t => exact h

theorem latestMemo_append (init : Option Memo) (tr evs : List (GuardEvent α)) :
    latestMemo g keeping init (tr ++ evs) = latestMemo g keeping (latestMemo g keeping init tr) evs :=
  List.foldl_append

/-! ## What a move changes -/

variable {g keeping key} {w w' : World} {c c' : Caller α} {evs : List (GuardEvent α)}

theorem unclaim_entry {n : Nat} (h : w.inFlight.get? key = claimsEntry (n + 1)) :
    (w.unclaim key).inFlight.get? key = claimsEntry n ∧
      (n = 0 → (w.unclaim key).gates.get? (lockName key) = none) := by
  have hclaims : w.claims key = n + 1 := claims_of_entry h
  rw [World.inFlight_unclaim, World.lock_unclaim, hclaims]
  constructor
  · by_cases hn : n = 0 <;> simp [hn, claimsEntry]
  · intro hn
    simp [hn]

theorem claimants_claimed_cons {c : Caller α} (hc : c.claims = true) (cs : List (Caller α)) :
    claimants (c :: cs) = claimants cs + 1 := by
  rw [claimants_cons, hc, if_pos rfl]

theorem Caller.Move.gateFits {cs : List (Caller α)} (hmove : Caller.Move g key keeping w c evs w' c')
    (hc : c.Confined key) (hclaims : w.claims key = claimants (c :: cs))
    (h : GateFits (w.gate (lockName key) 1) w.nextTicket (c :: cs)) :
    GateFits (w'.gate (lockName key) 1) w'.nextTicket (c' :: cs) := by
  induction hmove with
  | queue harrive _ ih | enter harrive _ ih =>
    obtain ⟨rfl, hentered, hgate, hnext, -, -, hentry⟩ := of_claim_arrive key harrive
    refine ih hc ?_ ?_
    · rw [claims_of_entry (n := claimants cs + 1) (by rw [hentry, hclaims]; rfl),
        claimants_claimed_cons rfl]
    · rw [hgate, hnext]
      simpa [← hentered] using h.arrive
  | wait | done => exact h
  | pickUp hhanded _ ih =>
    apply ih hc (by simpa [World.claims, claimants_cons, Caller.claims] using hclaims)
    rw [World.gate_changeGate, World.changeGate_nextTicket]
    exact h.pickUp hhanded
  | replay _ =>
    rw [World.unclaim_nextTicket, World.changeGate_nextTicket, World.recordEvent_nextTicket]
    refine (GateFits.cons_idle_iff rfl rfl).2 (GateFits.unclaim ?_ fun hle => ?_)
    · rw [World.gate_changeGate, World.recordEvent_gate]
      exact h.leave rfl rfl
    · simp only [World.claims, World.changeGate_inFlight, World.recordEvent_inFlight] at hle
      rw [← World.claims, hclaims, claimants_claimed_cons rfl] at hle
      omega
  | run _ _ ih => exact ih hc hclaims (h.replace rfl rfl)
  | pause ht _ =>
    have hkeeps := (Proc.Confined.turn hc ht).1
    rw [hkeeps.gate]
    exact GateFits.mono (GateFits.replace h rfl rfl) hkeeps.tickets
  | finish ht =>
    have hkeeps := (Proc.Confined.turn hc ht).1
    rw [World.unclaim_nextTicket, World.changeGate_nextTicket, settled_nextTicket]
    refine (GateFits.cons_idle_iff rfl rfl).2 (GateFits.unclaim ?_ fun hle => ?_)
    · rw [World.gate_changeGate, settled_gate, hkeeps.gate]
      exact (h.leave rfl rfl).mono hkeeps.tickets
    · simp only [World.claims, World.changeGate_inFlight, settled_inFlight, hkeeps.claims] at hle
      rw [← World.claims, hclaims, claimants_claimed_cons rfl] at hle
      omega

theorem Caller.Move.inFlight {cs : List (Caller α)} (hmove : Caller.Move g key keeping w c evs w' c')
    (hc : c.Confined key) (hclaims : w.inFlight.get? key = claimsEntry (claimants (c :: cs))) :
    w'.inFlight.get? key = claimsEntry (claimants (c' :: cs)) := by
  induction hmove with
  | queue harrive _ ih | enter harrive _ ih =>
    obtain ⟨-, -, -, -, -, -, hentry⟩ := of_claim_arrive key harrive
    refine ih hc ?_
    rw [hentry, claims_of_entry hclaims]
    simp [claimants_cons, Caller.claims]
  | wait | done => exact hclaims
  | pickUp _ _ ih => exact ih hc (by simpa [claimants_cons, Caller.claims] using hclaims)
  | replay _ =>
    simp [claimants_cons, Caller.claims] at hclaims ⊢
    refine (unclaim_entry ?_).1
    simpa using hclaims
  | run _ _ ih => exact ih hc hclaims
  | pause ht _ => rw [(Proc.Confined.turn hc ht).1.claims]; exact hclaims
  | finish ht =>
    rw [← (Proc.Confined.turn hc ht).1.claims] at hclaims
    simp [claimants_cons, Caller.claims] at hclaims ⊢
    refine (unclaim_entry ?_).1
    simpa using hclaims

theorem Caller.Move.freed {cs : List (Caller α)} (hmove : Caller.Move g key keeping w c evs w' c')
    (hc : c.Confined key) (hclaims : w.inFlight.get? key = claimsEntry (claimants (c :: cs)))
    (hfreed : claimants (c :: cs) = 0 → w.gates.get? (lockName key) = none) :
    claimants (c' :: cs) = 0 → w'.gates.get? (lockName key) = none := by
  induction hmove with
  | queue harrive _ ih | enter harrive _ ih =>
    obtain ⟨-, -, -, -, -, -, hentry⟩ := of_claim_arrive key harrive
    refine ih hc ?_ fun h0 => absurd h0 (by simp [claimants_cons, Caller.claims])
    rw [hentry, claims_of_entry hclaims]
    simp [claimants_cons, Caller.claims]
  | wait | done => exact hfreed
  | pickUp _ _ ih =>
    exact ih hc (by simpa [claimants_cons, Caller.claims] using hclaims)
      fun h0 => absurd h0 (by simp [claimants_cons, Caller.claims])
  | replay _ =>
    intro h0
    simp [claimants_cons, Caller.claims] at hclaims h0
    rw [h0] at hclaims
    refine (unclaim_entry ?_).2 rfl
    simpa using hclaims
  | run _ _ ih => exact ih hc hclaims fun h0 => absurd h0 (by simp [claimants_cons, Caller.claims])
  | pause _ _ => exact fun h0 => absurd h0 (by simp [claimants_cons, Caller.claims])
  | finish ht =>
    intro h0
    rw [← (Proc.Confined.turn hc ht).1.claims] at hclaims
    simp [claimants_cons, Caller.claims] at hclaims h0
    rw [h0] at hclaims
    refine (unclaim_entry ?_).2 rfl
    simpa using hclaims

theorem Caller.Move.backend (hmove : Caller.Move g key keeping w c evs w' c') (hc : c.Confined key) :
    w'.store.backend = w.store.backend := by
  induction hmove with
  | queue harrive _ ih | enter harrive _ ih =>
    obtain ⟨-, -, -, -, hstore, -, -⟩ := of_claim_arrive key harrive
    rw [ih hc, hstore]
  | wait | done => rfl
  | pickUp _ _ ih => exact ih hc
  | replay _ => simp
  | run _ _ ih => exact ih hc
  | pause ht _ => exact (Proc.Confined.turn hc ht).1.backend
  | finish ht =>
    rw [World.unclaim_store, World.changeGate_store, settled_backend]
    exact (Proc.Confined.turn hc ht).1.backend

theorem Caller.Move.records (hmove : Caller.Move g key keeping w c evs w' c') (hc : c.Confined key)
    (hone : (w.recordsOf key).length ≤ 1) :
    w'.recordsOf key = evs.foldl (GuardEvent.keeps g key keeping) (w.recordsOf key) := by
  induction hmove with
  | @queue w w₁ _ _ _ _ _ harrive _ ih | @enter w w₁ _ _ _ _ _ harrive _ ih =>
    obtain ⟨-, -, -, -, hstore, -, -⟩ := of_claim_arrive key harrive
    have hsame : w₁.recordsOf key = w.recordsOf key := by rw [World.recordsOf, hstore]; rfl
    rw [ih hc (hsame ▸ hone), hsame]
  | wait | done => rfl
  | pickUp _ _ ih => exact ih hc hone
  | replay _ => simp [World.recordsOf, GuardEvent.keeps]
  | run _ _ ih => exact ih hc hone
  | pause ht _ => exact (Proc.Confined.turn hc ht).1.records
  | @finish w w₁ q r ht =>
    have hrecords : w₁.recordsOf key = w.recordsOf key := (Proc.Confined.turn hc ht).1.records
    rw [World.recordsOf_unclaim, World.recordsOf_changeGate]
    cases r with
    | error e => exact hrecords
    | ok v =>
      show (w₁.keep key _).recordsOf key = _
      refine Keyed.filter_put_self _ key _ ?_
      show (w₁.recordsOf key).length ≤ 1
      rw [hrecords]
      exact hone

theorem Caller.Move.events_running {q : Action (Except Fault α)}
    (hmove : Caller.Move g key keeping w (.running q) evs w' c') :
    evs = [] ∨ ∃ v t, evs = [.recorded v t] := by
  cases hmove with
  | pause => exact .inl rfl
  | @finish _ w₁ _ r _ => cases r <;> simp [GuardEvent.ofResult]

theorem Caller.Move.events (hmove : Caller.Move g key keeping w c evs w' c') :
    evs = [] ∨
      (∃ s, w.store.remembered key w.now = .ok (some s) ∧ evs = [.replayed (keeping.decode s)]) ∨
      (w.store.remembered key w.now = .ok none ∧
        (evs = [.started w.now] ∨ ∃ v t, evs = [.started w.now, .recorded v t])) ∨
      ∃ v t, evs = [.recorded v t] := by
  induction hmove with
  | queue harrive _ ih | enter harrive _ ih =>
    obtain ⟨-, -, -, -, hstore, hnow, -⟩ := of_claim_arrive key harrive
    rwa [hstore, hnow] at ih
  | wait | done | pause _ _ => exact .inl rfl
  | pickUp _ _ ih => exact ih
  | replay hfound => exact .inr (.inl ⟨_, hfound, rfl⟩)
  | run hnone hrest _ =>
    rcases hrest.events_running with rfl | ⟨v, t, rfl⟩
    · exact .inr (.inr (.inl ⟨hnone, .inl rfl⟩))
    · exact .inr (.inr (.inl ⟨hnone, .inr ⟨v, t, rfl⟩⟩))
  | @finish _ w₁ _ r _ =>
    cases r with
    | error e => exact .inl rfl
    | ok v => exact .inr (.inr (.inr ⟨v, w₁.now, rfl⟩))

theorem Caller.Move.recorded_now (hmove : Caller.Move g key keeping w c evs w' c') {v : α}
    {t : Instant} (hmem : .recorded v t ∈ evs) : t = w'.now := by
  induction hmove with
  | queue _ _ ih | enter _ _ ih | pickUp _ _ ih => exact ih hmem
  | wait | done | pause _ _ | replay _ => simp at hmem
  | run _ _ ih => exact ih (List.mem_of_ne_of_mem (by simp) hmem)
  | @finish _ w₁ _ r _ =>
    cases r with
    | error e => simp [GuardEvent.ofResult] at hmem
    | ok v' =>
      simp only [GuardEvent.ofResult, List.mem_singleton, GuardEvent.recorded.injEq] at hmem
      rw [hmem.2, World.unclaim_now, World.changeGate_now, settled_now]

theorem Caller.Move.at_once {r : Except Fault α} (hfree : 0 < (w.gate (lockName key) 1).free)
    (hnone : w.store.remembered key w.now = .ok none) :
    Caller.Move g key keeping w (.start (.pure r)) (.started w.now :: GuardEvent.ofResult w.now r)
      (((settled g key keeping ((w.claim key).arrive (lockName key) 1).2 r).changeGate
        (lockName key) 1 Gate.leave).unclaim key)
      (.finished r) := by
  have harrive : (w.claim key).arrive (lockName key) 1 =
      ((w.nextTicket, true), ((w.claim key).arrive (lockName key) 1).2) := by
    simp [World.arrive, Gate.arrive, hfree]
  exact .enter harrive (.run hnone (.finish (Proc.turn_pure.2 ⟨rfl, rfl⟩)))

/-! ## Dropping a caller -/

theorem Caller.dropped_gateFits {cs : List (Caller α)} (hc : c.Confined key)
    (hclaims : w.claims key = claimants (c :: cs))
    (h : GateFits (w.gate (lockName key) 1) w.nextTicket (c :: cs)) :
    GateFits ((c.dropped key w).gate (lockName key) 1) (c.dropped key w).nextTicket cs := by
  have hlast : ∀ {u : World}, u.inFlight.get? key = w.inFlight.get? key → c.claims = true →
      u.claims key ≤ 1 → claimants cs = 0 := by
    intro u hu hcl hle
    rw [World.claims, hu, ← World.claims, hclaims, claimants_claimed_cons hcl] at hle
    omega
  cases c with
  | start op => exact (GateFits.cons_idle_iff rfl rfl).1 h
  | queued t op =>
    simp only [Caller.dropped, World.unclaim_nextTicket, World.changeGate_nextTicket]
    refine GateFits.unclaim ?_ (hlast rfl rfl)
    simpa using h.abandon
  | admitted op =>
    simp only [Caller.dropped, World.unclaim_nextTicket, World.changeGate_nextTicket]
    refine GateFits.unclaim ?_ (hlast rfl rfl)
    simpa using h.leave rfl rfl
  | running q =>
    have hkeeps := Proc.Confined.release hc w
    simp only [Caller.dropped, World.unclaim_nextTicket, World.changeGate_nextTicket]
    refine GateFits.unclaim ?_ (hlast hkeeps.claims rfl)
    rw [World.gate_changeGate, hkeeps.gate]
    exact (h.leave rfl rfl).mono hkeeps.tickets
  | finished r => exact (GateFits.cons_idle_iff rfl rfl).1 h

theorem Caller.dropped_inFlight {cs : List (Caller α)} (hc : c.Confined key)
    (hclaims : w.inFlight.get? key = claimsEntry (claimants (c :: cs))) :
    (c.dropped key w).inFlight.get? key = claimsEntry (claimants cs) := by
  cases c with
  | start op | finished r => simpa [claimants_cons, Caller.claims, Caller.dropped] using hclaims
  | queued t op | admitted op =>
    rw [claimants_claimed_cons rfl] at hclaims
    refine (unclaim_entry ?_).1
    exact hclaims
  | running q =>
    rw [claimants_claimed_cons rfl, ← (Proc.Confined.release hc w).claims] at hclaims
    refine (unclaim_entry ?_).1
    exact hclaims

theorem Caller.dropped_freed {cs : List (Caller α)} (hc : c.Confined key)
    (hclaims : w.inFlight.get? key = claimsEntry (claimants (c :: cs)))
    (hfreed : claimants (c :: cs) = 0 → w.gates.get? (lockName key) = none) :
    claimants cs = 0 → (c.dropped key w).gates.get? (lockName key) = none := by
  intro h0
  cases c with
  | start op | finished r => exact hfreed (by simpa [claimants_cons, Caller.claims] using h0)
  | queued t op | admitted op =>
    rw [claimants_claimed_cons rfl, h0] at hclaims
    refine (unclaim_entry ?_).2 rfl
    exact hclaims
  | running q =>
    rw [claimants_claimed_cons rfl, h0, ← (Proc.Confined.release hc w).claims] at hclaims
    refine (unclaim_entry ?_).2 rfl
    exact hclaims

theorem Caller.dropped_records (hc : c.Confined key) :
    (c.dropped key w).recordsOf key = w.recordsOf key := by
  cases c with
  | running q =>
    simp only [Caller.dropped, World.recordsOf_unclaim, World.recordsOf_changeGate]
    exact (Proc.Confined.release hc w).records
  | _ => simp [Caller.dropped]

theorem Caller.dropped_backend (hc : c.Confined key) :
    (c.dropped key w).store.backend = w.store.backend := by
  cases c with
  | running q =>
    simp only [Caller.dropped, World.unclaim_store, World.changeGate_store]
    exact (Proc.Confined.release hc w).backend
  | _ => simp [Caller.dropped]

/-! ## A purge -/

theorem recordsOf_purged (w : World) (now : Instant) :
    (w.forgetExpired now).recordsOf key =
      (w.recordsOf key).filter fun e => e.2.expiresAt.sinceEpoch > now.sinceEpoch := by
  simp only [World.recordsOf, World.forgetExpired_memos, List.filter_filter]
  congr 1
  funext e
  exact Bool.and_comm _ _

theorem RecordsFit.filter {records : Keyed Memo} {m : Option Memo} (h : RecordsFit key records m)
    (p : String × Memo → Bool) : RecordsFit key (records.filter p) m := by
  rcases h with rfl | ⟨m', rfl, rfl⟩
  · exact .inl rfl
  · by_cases hp : p (key, m') = true
    · exact .inr ⟨m', by simp [hp], rfl⟩
    · exact .inl (by simp [hp])

theorem get?_eq_recordsOf (w : World) :
    w.store.memos.get? key = ((w.recordsOf key).head?).map (·.2) := by
  rw [World.recordsOf, List.head?_filter]
  rfl

theorem RecordsFit.found {m : Option Memo} (hmem : w.store.backend = .memory)
    (h : RecordsFit key (w.recordsOf key) m) {s : String}
    (hfound : w.store.remembered key w.now = .ok (some s)) : ∃ m', m = some m' ∧ s = m'.value := by
  rw [Store.remembered_of_memory hmem, get?_eq_recordsOf] at hfound
  rcases h with hnone | ⟨m', hone, rfl⟩
  · simp [hnone] at hfound
  · refine ⟨m', rfl, ?_⟩
    simp only [hone, List.head?_cons, Option.map_some, Option.bind_some, Except.ok.injEq] at hfound
    split at hfound
    · exact (Option.some.inj hfound).symm
    · cases hfound

theorem expiresAt_le_of_none {m : Memo} (hmem : w.store.backend = .memory)
    (h : w.recordsOf key = [(key, m)]) (hnone : w.store.remembered key w.now = .ok none) :
    m.expiresAt.sinceEpoch ≤ w.now.sinceEpoch := by
  rw [Store.remembered_of_memory hmem, get?_eq_recordsOf, h] at hnone
  simp only [List.head?_cons, Option.map_some, Option.bind_some, Except.ok.injEq] at hnone
  split at hnone
  · cases hnone
  · omega

/-! ## The latest result and the purges -/

variable (key)

/-- The result `m` is still remembered under the key, or a purge at or after its expiry has
forgotten it. -/
def LatestKept (records : Keyed Memo) (m : Memo) (tr : List (GuardEvent α)) : Prop :=
  records = [(key, m)] ∨
    (records = [] ∧ ∃ p, .purged p ∈ tr ∧ m.expiresAt.sinceEpoch ≤ p.sinceEpoch)

variable {key}

theorem LatestKept.mono {records : Keyed Memo} {m : Memo} {tr tr' : List (GuardEvent α)}
    (h : LatestKept key records m tr) (hsub : tr ⊆ tr') : LatestKept key records m tr' := by
  rcases h with h | ⟨h, p, hp, hle⟩
  · exact .inl h
  · exact .inr ⟨h, p, hsub hp, hle⟩

theorem LatestKept.foldl {records : Keyed Memo} {latest : Option Memo} {tr : List (GuardEvent α)}
    (h : ∀ m, latest = some m → LatestKept key records m tr) (evs : List (GuardEvent α)) :
    ∀ m, evs.foldl (GuardEvent.remembers g keeping) latest = some m →
      LatestKept key (evs.foldl (GuardEvent.keeps g key keeping) records) m (tr ++ evs) := by
  induction evs generalizing records latest tr with
  | nil => simpa using h
  | cons e evs ih =>
    have hnext := @ih (GuardEvent.keeps g key keeping records e) (GuardEvent.remembers g keeping latest e)
      (tr ++ [e])
    simp only [List.append_assoc, List.singleton_append] at hnext
    refine hnext fun m hm => ?_
    cases e with
    | recorded v t =>
      cases hm
      exact .inl rfl
    | started _ | replayed _ | purged _ =>
      exact (h m hm).mono (List.subset_append_left _ _)

/-! ## A pool of callers -/

/-- Callers of one key of a guard, each at its place, and the world they share. -/
structure GuardPool (α : Type) where
  world : World
  callers : List (Caller α)

variable (g key keeping)

/-- One step of a pool: a turn of a caller, the drop of a caller (a cancelled call), a new call,
anything else the world does that leaves the key's lock, claims and records alone, or a whole
turn of a purge. -/
inductive GuardPool.Step : GuardPool α → List (GuardEvent α) → GuardPool α → Prop
  | turn {w w' : World} {pre post : List (Caller α)} {c c' : Caller α} {evs : List (GuardEvent α)}
      (hmove : Caller.Move g key keeping w c evs w' c') :
      GuardPool.Step ⟨w, pre ++ c :: post⟩ evs ⟨w', pre ++ c' :: post⟩
  | drop {w : World} {pre post : List (Caller α)} {c : Caller α} :
      GuardPool.Step ⟨w, pre ++ c :: post⟩ [] ⟨((c.term g key keeping).release w).1, pre ++ post⟩
  | call {w : World} {cs : List (Caller α)} {op : Action (Except Fault α)}
      (hop : Proc.Confined (Keeps key) op) : GuardPool.Step ⟨w, cs⟩ [] ⟨w, cs ++ [.start op]⟩
  | outside {w w' : World} {cs : List (Caller α)} (hkeeps : Keeps key w w') :
      GuardPool.Step ⟨w, cs⟩ [] ⟨w', cs⟩
  | purge {w w' : World} {cs : List (Caller α)} {n : Except AgentError Nat}
      (hpurge : Proc.Turn w g.purge w' (.pure n)) : GuardPool.Step ⟨w, cs⟩ [.purged w.now] ⟨w', cs⟩

/-- Steps one after another from `P₀`, each allowed by `allowed` on the worlds it goes between;
the events of the run are those of its steps, in order. -/
inductive GuardPool.Run (allowed : World → World → Prop) (P₀ : GuardPool α) :
    List (GuardEvent α) → GuardPool α → Prop
  | refl : GuardPool.Run allowed P₀ [] P₀
  | step {tr evs : List (GuardEvent α)} {P P' : GuardPool α}
      (hrun : GuardPool.Run allowed P₀ tr P) (hstep : GuardPool.Step g key keeping P evs P')
      (hallowed : allowed P.world P'.world) : GuardPool.Run allowed P₀ (tr ++ evs) P'

/-- What every pool a run reaches keeps, with `tr` the events so far and `init` the result
remembered under the key when the run began. -/
structure Inv (init : Option Memo) (tr : List (GuardEvent α)) (P : GuardPool α) : Prop where
  memory : P.world.store.backend = .memory
  confined : ∀ c ∈ P.callers, c.Confined key
  gate : GateFits (P.world.gate (lockName key) 1) P.world.nextTicket P.callers
  claims : P.world.inFlight.get? key = claimsEntry (claimants P.callers)
  freed : claimants P.callers = 0 → P.world.gates.get? (lockName key) = none
  records : RecordsFit key (P.world.recordsOf key) (latestMemo g keeping init tr)
  latest : ∀ m, latestMemo g keeping init tr = some m → LatestKept key (P.world.recordsOf key) m tr
  replays : ∀ pre r post, tr = pre ++ .replayed r :: post →
    ∃ m, latestMemo g keeping init pre = some m ∧ r = keeping.decode m.value
  starts : ∀ pre n post, tr = pre ++ .started n :: post → ∀ m, latestMemo g keeping init pre = some m →
    m.expiresAt.sinceEpoch ≤ n.sinceEpoch ∨
      ∃ p, .purged p ∈ pre ∧ m.expiresAt.sinceEpoch ≤ p.sinceEpoch

variable {g key keeping}

theorem split_at_event {β : Type} {tr evs pre post : List β} {e : β}
    (h : tr ++ evs = pre ++ e :: post) :
    (∃ post', tr = pre ++ e :: post') ∨ ∃ pre', pre = tr ++ pre' ∧ evs = pre' ++ e :: post := by
  rcases List.append_eq_append_iff.1 h with ⟨pre', hpre, hevs⟩ | ⟨rest, htr, hrest⟩
  · exact .inr ⟨pre', hpre, hevs⟩
  · cases rest with
    | nil => exact .inr ⟨[], by simpa using htr.symm, by simpa using hrest.symm⟩
    | cons e' rest =>
      obtain ⟨rfl, rfl⟩ := List.cons.inj hrest
      exact .inl ⟨rest, htr⟩

theorem claimants_middle (pre post : List (Caller α)) (c : Caller α) :
    claimants (pre ++ c :: post) = claimants (c :: (pre ++ post)) :=
  List.perm_middle.countP_eq _

section Steps

variable {init : Option Memo} {tr evs : List (GuardEvent α)} {w w' : World}
  {pre post cs : List (Caller α)}

theorem Inv.starts_of_quiet {P : GuardPool α} (hinv : Inv g key keeping init tr P)
    (hquiet : ∀ n, .started n ∉ evs) :
    ∀ pre n post, tr ++ evs = pre ++ .started n :: post → ∀ m,
      latestMemo g keeping init pre = some m →
        m.expiresAt.sinceEpoch ≤ n.sinceEpoch ∨
          ∃ p, .purged p ∈ pre ∧ m.expiresAt.sinceEpoch ≤ p.sinceEpoch := by
  intro pre' n post' hsplit
  rcases split_at_event hsplit with ⟨post'', htr⟩ | ⟨pre'', -, hevs⟩
  · exact hinv.starts pre' n post'' htr
  · exact absurd (by rw [hevs]; simp) (hquiet n)

theorem Inv.turn (hinv : Inv g key keeping init tr ⟨w, pre ++ c :: post⟩)
    (hmove : Caller.Move g key keeping w c evs w' c') :
    Inv g key keeping init (tr ++ evs) ⟨w', pre ++ c' :: post⟩ := by
  have hc : c.Confined key := hinv.confined c (by simp)
  have hclaims : w.inFlight.get? key = claimsEntry (claimants (c :: (pre ++ post))) := by
    rw [← claimants_middle]
    exact hinv.claims
  have hrecords := hmove.records hc hinv.records.length_le
  refine ⟨(hmove.backend hc).trans hinv.memory, ?_, ?_, ?_, ?_, ?_, ?_, ?_, ?_⟩
  · intro x hx
    rcases List.mem_append.1 hx with hx | hx
    · exact hinv.confined x (List.mem_append_left _ hx)
    · rcases List.mem_cons.1 hx with rfl | hx
      · exact hmove.confined g key keeping hc
      · exact hinv.confined x (List.mem_append_right _ (List.mem_cons_of_mem _ hx))
  · -- the caller that moves is brought to the front and put back
    have hgate := (hinv.gate.perm List.perm_middle).perm List.Perm.rfl
    exact (hmove.gateFits hc (claims_of_entry hclaims) hgate).perm List.perm_middle.symm
  · rw [claimants_middle]
    exact hmove.inFlight hc hclaims
  · rw [claimants_middle]
    exact hmove.freed hc hclaims (by rw [← claimants_middle]; exact hinv.freed)
  · rw [latestMemo_append, hrecords]
    exact RecordsFit.foldl g key keeping hinv.records evs
  · rw [latestMemo_append, hrecords]
    exact LatestKept.foldl hinv.latest evs
  · intro pre' r post' hsplit
    rcases split_at_event hsplit with ⟨post'', htr⟩ | ⟨pre'', rfl, hevs⟩
    · exact hinv.replays pre' r post'' htr
    · -- a replay is the whole of its turn, and returns what the lookup found
      have hin : GuardEvent.replayed r ∈ evs := by rw [hevs]; simp
      rcases hmove.events with rfl | ⟨s, hfound, rfl⟩ | ⟨-, rfl | ⟨v, t, rfl⟩⟩ | ⟨v, t, rfl⟩
      · simp at hin
      · cases pre'' with
        | cons e rest => simp at hevs
        | nil =>
          simp only [List.nil_append, List.cons.injEq, GuardEvent.replayed.injEq] at hevs
          obtain ⟨rfl, -⟩ := hevs
          obtain ⟨m, hm, hs⟩ := hinv.records.found hinv.memory hfound
          exact ⟨m, by simpa using hm, by rw [hs]⟩
      all_goals simp at hin
  · intro pre' n post' hsplit m hm
    rcases split_at_event hsplit with ⟨post'', htr⟩ | ⟨pre'', rfl, hevs⟩
    · exact hinv.starts pre' n post'' htr m hm
    · -- a start is the first event of its turn, after a lookup that found nothing live
      have hin : GuardEvent.started n ∈ evs := by rw [hevs]; simp
      rcases hmove.events with rfl | ⟨s, -, rfl⟩ | ⟨hnone, hstarted⟩ | ⟨v, t, rfl⟩
      · simp at hin
      · simp at hin
      · have hfirst : pre'' = [] ∧ n = w.now := by
          rcases hstarted with rfl | ⟨v, t, rfl⟩
          · cases pre'' with
            | nil => simp at hevs; exact ⟨rfl, hevs.1.symm⟩
            | cons e rest => cases rest <;> simp at hevs
          · cases pre'' with
            | nil => simp at hevs; exact ⟨rfl, hevs.1.symm⟩
            | cons e rest =>
              cases rest with
              | nil => simp at hevs
              | cons e' rest => cases rest <;> simp at hevs
        obtain ⟨rfl, rfl⟩ := hfirst
        rw [List.append_nil] at hm
        rcases hinv.latest m hm with hkept | ⟨-, p, hp, hle⟩
        · exact .inl (expiresAt_le_of_none hinv.memory hkept hnone)
        · exact .inr ⟨p, by simpa using hp, hle⟩
      · simp at hin

theorem Inv.drop (hinv : Inv g key keeping init tr ⟨w, pre ++ c :: post⟩) :
    Inv g key keeping init (tr ++ []) ⟨((c.term g key keeping).release w).1, pre ++ post⟩ := by
  have hc : c.Confined key := hinv.confined c (by simp)
  have hclaims : w.inFlight.get? key = claimsEntry (claimants (c :: (pre ++ post))) := by
    rw [← claimants_middle]
    exact hinv.claims
  rw [List.append_nil, Caller.release_term]
  refine ⟨(Caller.dropped_backend hc).trans hinv.memory, ?_, ?_, Caller.dropped_inFlight hc hclaims,
    Caller.dropped_freed hc hclaims (by rw [← claimants_middle]; exact hinv.freed), ?_, ?_,
    hinv.replays, hinv.starts⟩
  · intro x hx
    exact hinv.confined x (List.Sublist.subset (by simp) hx)
  · exact Caller.dropped_gateFits hc (claims_of_entry hclaims) (hinv.gate.perm List.perm_middle)
  · rw [Caller.dropped_records hc]
    exact hinv.records
  · rw [Caller.dropped_records hc]
    exact hinv.latest

theorem Inv.call {op : Action (Except Fault α)} (hinv : Inv g key keeping init tr ⟨w, cs⟩)
    (hop : Proc.Confined (Keeps key) op) :
    Inv g key keeping init (tr ++ []) ⟨w, cs ++ [.start op]⟩ := by
  have hclaimants : claimants (cs ++ [.start op]) = claimants cs := by
    simp [claimants, List.countP_append, Caller.claims]
  rw [List.append_nil]
  refine ⟨hinv.memory, ?_, ?_, hclaimants ▸ hinv.claims, hclaimants ▸ hinv.freed, hinv.records,
    hinv.latest, hinv.replays, hinv.starts⟩
  · intro x hx
    rcases List.mem_append.1 hx with hx | hx
    · exact hinv.confined x hx
    · rw [List.mem_singleton.1 hx]
      exact hop
  · exact ((GateFits.cons_idle_iff rfl rfl).2 hinv.gate).perm (List.perm_append_singleton _ _).symm

theorem Inv.outside (hinv : Inv g key keeping init tr ⟨w, cs⟩) (hkeeps : Keeps key w w') :
    Inv g key keeping init (tr ++ []) ⟨w', cs⟩ := by
  rw [List.append_nil]
  refine ⟨hkeeps.backend.trans hinv.memory, hinv.confined, ?_, hkeeps.claims.trans hinv.claims,
    fun h0 => hkeeps.lock.trans (hinv.freed h0), ?_, ?_, hinv.replays, hinv.starts⟩
  · rw [show w'.gate (lockName key) 1 = w.gate (lockName key) 1 from hkeeps.gate]
    exact hinv.gate.mono hkeeps.tickets
  · rw [show w'.recordsOf key = w.recordsOf key from hkeeps.records]
    exact hinv.records
  · rw [show w'.recordsOf key = w.recordsOf key from hkeeps.records]
    exact hinv.latest

theorem LatestKept.purged {m : Memo} (h : LatestKept key (w.recordsOf key) m tr) :
    LatestKept key ((w.forgetExpired w.now).recordsOf key) m (tr ++ [.purged w.now]) := by
  rw [recordsOf_purged]
  rcases h with hkept | ⟨hnone, p, hp, hle⟩
  · rw [hkept]
    by_cases hlive : m.expiresAt.sinceEpoch > w.now.sinceEpoch
    · exact .inl (by simp [hlive])
    · exact .inr ⟨by simp [hlive], w.now, by simp, by omega⟩
  · rw [hnone]
    exact .inr ⟨rfl, p, by simp [hp], hle⟩

theorem Inv.purge {n : Except AgentError Nat} (hinv : Inv g key keeping init tr ⟨w, cs⟩)
    (hpurge : Proc.Turn w g.purge w' (.pure n)) :
    Inv g key keeping init (tr ++ [.purged w.now]) ⟨w', cs⟩ := by
  obtain ⟨rfl, -⟩ := (turn_purge g hinv.memory).1 hpurge
  have hlatest : latestMemo g keeping init (tr ++ [.purged w.now]) = latestMemo g keeping init tr := by
    rw [latestMemo_append]
    rfl
  refine ⟨hinv.memory, hinv.confined, hinv.gate, hinv.claims, hinv.freed, ?_, ?_, ?_,
    hinv.starts_of_quiet (by simp)⟩
  · rw [hlatest, recordsOf_purged]
    exact hinv.records.filter _
  · rw [hlatest]
    exact fun m hm => (hinv.latest m hm).purged
  · intro pre' r post' hsplit
    rcases split_at_event hsplit with ⟨post'', htr⟩ | ⟨pre'', -, hevs⟩
    · exact hinv.replays pre' r post'' htr
    · have hin : GuardEvent.replayed r ∈ [GuardEvent.purged (α := α) w.now] := by rw [hevs]; simp
      simp at hin

theorem Inv.step {P P' : GuardPool α} (hinv : Inv g key keeping init tr P)
    (hstep : GuardPool.Step g key keeping P evs P') : Inv g key keeping init (tr ++ evs) P' := by
  cases hstep with
  | turn hmove => exact hinv.turn hmove
  | drop => exact hinv.drop
  | call hop => exact hinv.call hop
  | outside hkeeps => exact hinv.outside hkeeps
  | purge hpurge => exact hinv.purge hpurge

end Steps

theorem Inv.initial {w₀ : World} (hmem : w₀.store.backend = .memory)
    (hidle : w₀.inFlight.get? key = none ∧ w₀.gates.get? (lockName key) = none)
    (hone : (w₀.recordsOf key).length ≤ 1) :
    Inv g key keeping (w₀.store.memos.get? key) [] ⟨w₀, []⟩ := by
  have hrecords : RecordsFit key (w₀.recordsOf key) (latestMemo g keeping (w₀.store.memos.get? key) []) := by
    rw [latestMemo, List.foldl_nil, get?_eq_recordsOf]
    match hrecords : w₀.recordsOf key, hone with
    | [], _ => exact .inl rfl
    | [e], _ =>
      have hkey : e.1 = key := by
        have he : e ∈ w₀.recordsOf key := by rw [hrecords]; exact List.mem_singleton_self e
        simpa using (List.mem_filter.1 he).2
      exact .inr ⟨e.2, by rw [← hkey], rfl⟩
  refine ⟨hmem, by simp, ?_, hidle.1, fun _ => hidle.2, hrecords, fun m hm => ?_, by simp, by simp⟩
  · rw [World.gate, hidle.2]
    exact ⟨Gate.Accounts.fresh 1, by simp⟩
  · rcases hrecords with hnone | ⟨m', hm', hlatest⟩
    · rw [latestMemo, List.foldl_nil, get?_eq_recordsOf, hnone] at hm
      cases hm
    · rw [hm] at hlatest
      cases hlatest
      exact .inl hm'

theorem Inv.of_run {allowed : World → World → Prop} {init : Option Memo} {P₀ P : GuardPool α}
    {tr : List (GuardEvent α)} (h₀ : Inv g key keeping init [] P₀)
    (hrun : GuardPool.Run g key keeping allowed P₀ tr P) : Inv g key keeping init tr P := by
  induction hrun with
  | refl => exact h₀
  | step _ hstep _ ih => exact ih.step hstep

/-! ## With a clock that never goes back -/

theorem Instant.add_le_add {t t' : Instant} (h : t.sinceEpoch ≤ t'.sinceEpoch) (d : Duration) :
    (t.add d).sinceEpoch ≤ (t'.add d).sinceEpoch := by
  simp only [Instant.add]
  by_cases h₁ : t.sinceEpoch + d.toNanos ≤ Instant.maxUtc.sinceEpoch <;>
    by_cases h₂ : t'.sinceEpoch + d.toNanos ≤ Instant.maxUtc.sinceEpoch <;>
    simp only [h₁, h₂, if_true, if_false] <;> omega

/-- Until when the result remembered under the key is live: its expiry, or now if there is
none or it has expired. -/
def liveUntil (key : String) (w : World) : Int :=
  match (w.recordsOf key).head? with
  | some e => max e.2.expiresAt.sinceEpoch w.now.sinceEpoch
  | none => w.now.sinceEpoch

theorem liveUntil_mono {key : String} {w w' : World} (hrecords : w'.recordsOf key = w.recordsOf key)
    (hnow : w.now.sinceEpoch ≤ w'.now.sinceEpoch) : liveUntil key w ≤ liveUntil key w' := by
  unfold liveUntil
  rw [hrecords]
  split <;> omega

theorem liveUntil_of_none {key : String} {w : World} (hmem : w.store.backend = .memory)
    (hnone : w.store.remembered key w.now = .ok none) : liveUntil key w = w.now.sinceEpoch := by
  rw [Store.remembered_of_memory hmem, get?_eq_recordsOf] at hnone
  unfold liveUntil
  split
  · rename_i e he
    simp only [he, Option.map_some, Option.bind_some, Except.ok.injEq] at hnone
    split at hnone
    · cases hnone
    · omega
  · rfl

variable (g key)

/-- What a run with a clock that never goes back keeps: every success recorded so far is
remembered until at least its expiry, or has expired; and every start of the operation came
after the expiry of every success recorded before it. -/
structure ClockInv (tr : List (GuardEvent α)) (P : GuardPool α) : Prop where
  recorded : ∀ v t, .recorded v t ∈ tr →
    t.sinceEpoch ≤ P.world.now.sinceEpoch ∧ (t.add g.ttl).sinceEpoch ≤ liveUntil key P.world
  separated : ∀ pre n post, tr = pre ++ .started n :: post → ∀ v t, .recorded v t ∈ pre →
    (t.add g.ttl).sinceEpoch ≤ n.sinceEpoch

variable {g key}

section Clock

variable {init : Option Memo} {tr evs : List (GuardEvent α)}

theorem ClockInv.of_quiet {P P' : GuardPool α} (hclock : ClockInv g key tr P)
    (hrecords : P'.world.recordsOf key = P.world.recordsOf key)
    (hnow : P.world.now.sinceEpoch ≤ P'.world.now.sinceEpoch) : ClockInv g key (tr ++ []) P' := by
  rw [List.append_nil]
  refine ⟨fun v t ht => ?_, hclock.separated⟩
  obtain ⟨hle, hlive⟩ := hclock.recorded v t ht
  exact ⟨Int.le_trans hle hnow, Int.le_trans hlive (liveUntil_mono hrecords hnow)⟩

theorem ClockInv.append {P P' : GuardPool α} (hclock : ClockInv g key tr P)
    (hold : ∀ v t, .recorded v t ∈ tr →
      t.sinceEpoch ≤ P'.world.now.sinceEpoch ∧ (t.add g.ttl).sinceEpoch ≤ liveUntil key P'.world)
    (hnew : ∀ v t, .recorded v t ∈ evs →
      t.sinceEpoch ≤ P'.world.now.sinceEpoch ∧ (t.add g.ttl).sinceEpoch ≤ liveUntil key P'.world)
    (hstart : ∀ pre' n post, evs = pre' ++ .started n :: post → ∀ v t, .recorded v t ∈ tr ++ pre' →
      (t.add g.ttl).sinceEpoch ≤ n.sinceEpoch) :
    ClockInv g key (tr ++ evs) P' := by
  refine ⟨fun v t ht => ?_, fun pre n post hsplit => ?_⟩
  · rcases List.mem_append.1 ht with ht | ht
    · exact hold v t ht
    · exact hnew v t ht
  · rcases split_at_event hsplit with ⟨post', htr⟩ | ⟨pre', rfl, hevs⟩
    · exact hclock.separated pre n post' htr
    · exact hstart pre' n post hevs

theorem liveUntil_of_records {key : String} {w : World} {m : Memo}
    (h : w.recordsOf key = [(key, m)]) : liveUntil key w = max m.expiresAt.sinceEpoch w.now.sinceEpoch := by
  unfold liveUntil
  rw [h]
  rfl

theorem ClockInv.turn {w w' : World} {pre post : List (Caller α)} {c c' : Caller α}
    (hinv : Inv g key keeping init tr ⟨w, pre ++ c :: post⟩)
    (hclock : ClockInv g key tr ⟨w, pre ++ c :: post⟩)
    (hmove : Caller.Move g key keeping w c evs w' c') (hnow : w.now.sinceEpoch ≤ w'.now.sinceEpoch) :
    ClockInv g key (tr ++ evs) ⟨w', pre ++ c' :: post⟩ := by
  have hc : c.Confined key := hinv.confined c (by simp)
  have hrecords := hmove.records hc hinv.records.length_le
  -- a success recorded in this turn is live until a time to live after the turn ends, which
  -- bounds every success recorded so far, the new one with the old
  have hkept : ∀ {v t}, .recorded v t ∈ evs →
      w'.recordsOf key = [(key, ⟨keeping.encode v, t.add g.ttl⟩)] → ∀ v₀ t₀, .recorded v₀ t₀ ∈ tr ++ evs →
        t₀.sinceEpoch ≤ w'.now.sinceEpoch ∧ (t₀.add g.ttl).sinceEpoch ≤ liveUntil key w' := by
    intro v t hin hw' v₀ t₀ ht₀
    have hle : t₀.sinceEpoch ≤ w'.now.sinceEpoch := by
      rcases List.mem_append.1 ht₀ with hold | hnew
      · exact Int.le_trans (hclock.recorded v₀ t₀ hold).1 hnow
      · exact Int.le_of_eq (congrArg Instant.sinceEpoch (hmove.recorded_now hnew))
    refine ⟨hle, ?_⟩
    rw [liveUntil_of_records hw', hmove.recorded_now hin]
    have := Instant.add_le_add hle g.ttl
    simp only at this ⊢
    omega
  have hsame : w'.recordsOf key = w.recordsOf key → ∀ v t, .recorded v t ∈ tr →
      t.sinceEpoch ≤ w'.now.sinceEpoch ∧ (t.add g.ttl).sinceEpoch ≤ liveUntil key w' := by
    intro hw' v t ht
    obtain ⟨hle, hlive⟩ := hclock.recorded v t ht
    exact ⟨Int.le_trans hle hnow, Int.le_trans hlive (liveUntil_mono hw' hnow)⟩
  have hlookup : w.store.remembered key w.now = .ok none → ∀ v t, .recorded v t ∈ tr →
      (t.add g.ttl).sinceEpoch ≤ w.now.sinceEpoch := by
    intro hnone v t ht
    rw [← liveUntil_of_none hinv.memory hnone]
    exact (hclock.recorded v t ht).2
  rcases hmove.events with rfl | ⟨s, -, rfl⟩ | ⟨hnone, rfl | ⟨v, t, rfl⟩⟩ | ⟨v, t, rfl⟩
  · exact hclock.append (hsame hrecords) (by simp) (by simp)
  · refine hclock.append (hsame hrecords) (by simp) fun pre' n post' hevs => ?_
    have hin : GuardEvent.started n ∈ [GuardEvent.replayed (keeping.decode s)] := by
      rw [hevs]
      simp
    simp at hin
  · refine hclock.append (hsame hrecords) (by simp) fun pre' n post' hevs v t ht => ?_
    obtain ⟨rfl, rfl, rfl⟩ : pre' = [] ∧ n = w.now ∧ post' = [] := by
      cases pre' with
      | nil => simpa [eq_comm] using hevs
      | cons e rest => simp at hevs
    exact hlookup hnone v t (by simpa using ht)
  · have hbound := hkept (by simp) hrecords
    refine hclock.append (fun v₀ t₀ h => hbound v₀ t₀ (List.mem_append_left _ h))
      (fun v₁ t₁ h => hbound v₁ t₁ (List.mem_append_right _ h)) fun pre' n post' hevs v₀ t₀ ht₀ => ?_
    obtain ⟨rfl, rfl⟩ : pre' = [] ∧ n = w.now := by
      cases pre' with
      | nil => simp at hevs; exact ⟨rfl, hevs.1.symm⟩
      | cons e rest =>
        cases rest with
        | nil => simp at hevs
        | cons e' rest => simp at hevs
    exact hlookup hnone v₀ t₀ (by simpa using ht₀)
  · have hbound := hkept (List.mem_singleton_self _) hrecords
    refine hclock.append (fun v₀ t₀ h => hbound v₀ t₀ (List.mem_append_left _ h))
      (fun v₁ t₁ h => hbound v₁ t₁ (List.mem_append_right _ h)) fun pre' n post' hevs => ?_
    have hin : GuardEvent.started n ∈ [GuardEvent.recorded v t] := by
      rw [hevs]
      simp
    simp at hin

theorem liveUntil_purged {w : World} {m : Option Memo} (h : RecordsFit key (w.recordsOf key) m) :
    liveUntil key w ≤ liveUntil key (w.forgetExpired w.now) := by
  have hpurged := @recordsOf_purged key w w.now
  rcases h with hnone | ⟨m', hone, -⟩
  · exact liveUntil_mono (by rw [hpurged, hnone, List.filter_nil]) (Int.le_refl _)
  · rw [hone] at hpurged
    by_cases hlive : m'.expiresAt.sinceEpoch > w.now.sinceEpoch
    · rw [liveUntil_of_records hone, liveUntil_of_records (m := m') (by simpa [hlive] using hpurged)]
      exact Int.le_refl _
    · -- the result had expired: it was live until now, and now has not moved
      have hgone : (w.forgetExpired w.now).recordsOf key = [] := by
        simpa [hlive] using hpurged
      rw [liveUntil_of_records hone]
      unfold liveUntil
      rw [hgone, List.head?_nil]
      show max m'.expiresAt.sinceEpoch w.now.sinceEpoch ≤ w.now.sinceEpoch
      omega

theorem ClockInv.step {P P' : GuardPool α} (hinv : Inv g key keeping init tr P)
    (hclock : ClockInv g key tr P) (hstep : GuardPool.Step g key keeping P evs P')
    (hnow : P.world.now.sinceEpoch ≤ P'.world.now.sinceEpoch) : ClockInv g key (tr ++ evs) P' := by
  cases hstep with
  | turn hmove => exact hclock.turn hinv hmove hnow
  | drop =>
    refine hclock.of_quiet ?_ hnow
    rw [Caller.release_term, Caller.dropped_records (hinv.confined _ (by simp))]
  | call _ => exact hclock.of_quiet rfl hnow
  | outside hkeeps => exact hclock.of_quiet hkeeps.records hnow
  | @purge w w' _ _ hpurge =>
    obtain ⟨rfl, -⟩ := (turn_purge g hinv.memory).1 hpurge
    refine hclock.append (fun v t ht => ?_) (by simp) fun pre' n post' hevs => ?_
    · obtain ⟨hle, hlive⟩ := hclock.recorded v t ht
      exact ⟨hle, Int.le_trans hlive (liveUntil_purged hinv.records)⟩
    · have hin : GuardEvent.started n ∈ [GuardEvent.purged (α := α) w.now] := by rw [hevs]; simp
      simp at hin

end Clock

theorem ClockInv.of_run {allowed : World → World → Prop} {init : Option Memo} {P₀ P : GuardPool α}
    {tr : List (GuardEvent α)}
    (hforward : ∀ w w', allowed w w' → w.now.sinceEpoch ≤ w'.now.sinceEpoch)
    (h₀ : Inv g key keeping init [] P₀) (hrun : GuardPool.Run g key keeping allowed P₀ tr P) :
    Inv g key keeping init tr P ∧ ClockInv g key tr P := by
  induction hrun with
  | refl => exact ⟨h₀, ⟨by simp, by simp⟩⟩
  | step _ hstep hallowed ih =>
    obtain ⟨hinv, hclock⟩ := ih
    exact ⟨hinv.step hstep, hclock.step hinv hstep (hforward _ _ hallowed)⟩

/-! ## Single flight -/

/-- Callers of one key of a guard over a store in memory, with no call of the key in flight at
first, in any order of turns, drops, new calls, purges and outside steps that leave the key's
lock, claims and records alone: at most one caller is ever through the key's lock; the key's
entry in the in-flight map counts the callers that hold a claim, and once every call has
returned or been dropped the map holds neither the key nor its lock; what the key remembers is
nothing or the latest success recorded; every replay returns the latest result remembered
before it; every start of the operation comes at or after the expiry of that latest result,
unless a purge at or after its expiry forgot it; and when no step sets the clock back, every
start comes at or after the expiry of every success recorded before it. -/
theorem single_flight {allowed : World → World → Prop} {w₀ : World} {tr : List (GuardEvent α)}
    {P : GuardPool α} (hmem : w₀.store.backend = .memory)
    (hidle : w₀.inFlight.get? key = none ∧ w₀.gates.get? (lockName key) = none)
    (hone : (w₀.store.memos.filter (·.1 == key)).length ≤ 1)
    (hrun : GuardPool.Run g key keeping allowed ⟨w₀, []⟩ tr P) :
    holders P.callers ≤ 1 ∧
    P.world.claims key = claimants P.callers ∧
    ((∀ c ∈ P.callers, ∃ r, c = .finished r) →
      P.world.inFlight.get? key = none ∧ P.world.gates.get? (lockName key) = none) ∧
    (P.world.store.memos.get? key = none ∨
      P.world.store.memos.get? key = latestMemo g keeping (w₀.store.memos.get? key) tr) ∧
    (∀ pre r post, tr = pre ++ .replayed r :: post →
      ∃ m, latestMemo g keeping (w₀.store.memos.get? key) pre = some m ∧ r = keeping.decode m.value) ∧
    (∀ pre n post, tr = pre ++ .started n :: post → ∀ m,
      latestMemo g keeping (w₀.store.memos.get? key) pre = some m →
        m.expiresAt.sinceEpoch ≤ n.sinceEpoch ∨
          ∃ p, .purged p ∈ pre ∧ m.expiresAt.sinceEpoch ≤ p.sinceEpoch) ∧
    ((∀ w w', allowed w w' → w.now.sinceEpoch ≤ w'.now.sinceEpoch) →
      ∀ pre n post, tr = pre ++ .started n :: post → ∀ v t, .recorded v t ∈ pre →
        (t.add g.ttl).sinceEpoch ≤ n.sinceEpoch) := by
  have h₀ : Inv g key keeping (w₀.store.memos.get? key) [] ⟨w₀, []⟩ := Inv.initial hmem hidle hone
  have hinv := h₀.of_run hrun
  refine ⟨hinv.gate.accounts.holding_le, claims_of_entry hinv.claims, fun hall => ?_, ?_,
    hinv.replays, hinv.starts, fun hforward => (ClockInv.of_run hforward h₀ hrun).2.separated⟩
  · -- with every call over, nobody holds a claim
    have hnone : claimants P.callers = 0 := by
      refine List.countP_eq_zero.2 fun c hc => ?_
      obtain ⟨r, rfl⟩ := hall c hc
      simp [Caller.claims]
    refine ⟨?_, hinv.freed hnone⟩
    rw [hinv.claims, hnone]
    rfl
  · rw [get?_eq_recordsOf]
    rcases hinv.records with hnone | ⟨m, hm, hlatest⟩
    · exact .inl (by rw [hnone]; rfl)
    · exact .inr (by rw [hm, hlatest]; rfl)

/-! ## A clock set back -/

theorem clock_set_back_run (key : String) (keeping : Keeping α) (v : α) (ttl : Nat) :
    ∃ w p n, GuardPool.Run ⟨Duration.ofMillis ttl⟩ key keeping (fun _ _ => True) ⟨{}, []⟩
      [.started ({} : World).now, .recorded v ({} : World).now, .purged p, .started n, .recorded v n]
      ⟨w, [.finished (.ok v), .finished (.ok v)]⟩ ∧ n = ({} : World).now := by
  have hop : Proc.Confined (Keeps key) (.pure (.ok v) : Action (Except Fault α)) :=
    Proc.confined_pure (Keeps.refl key) _
  have r₀ : GuardPool.Run ⟨Duration.ofMillis ttl⟩ key keeping (fun _ _ => True) ⟨{}, []⟩ [] ⟨{}, []⟩ :=
    .refl
  have r₁ := (r₀.step (.call hop) trivial).step (.turn (.at_once Nat.one_pos rfl)) trivial
  have r₂ := ((r₁.step (.outside (Keeps.setTick key _ ttl)) trivial).step
    (.purge ((turn_purge _ (by simp [settled])).2 ⟨rfl, rfl⟩)) trivial).step
    (.outside (Keeps.setTick key _ 0)) trivial
  have r₃ := (r₂.step (.call hop) trivial).step (.turn (.at_once ?free ?none)) trivial
  case free =>
    have hclaims : (((settled ⟨Duration.ofMillis ttl⟩ key keeping
        ((({} : World).claim key).arrive (lockName key) 1).2 (.ok v)).changeGate (lockName key) 1
          Gate.leave).claims key) = 1 := by
      rw [World.claims, World.changeGate_inFlight, settled_inFlight, World.arrive_inFlight,
        World.inFlight_claim]
      rfl
    rw [World.setTick_gate, World.forgetExpired_gate, World.setTick_gate, World.gate_unclaim,
      hclaims, if_pos (Nat.le_refl 1)]
    exact Nat.one_pos
  case none =>
    have hzero : Instant.scriptEpoch.add (Duration.ofMillis 0) = Instant.scriptEpoch := by decide
    rw [Store.remembered_of_memory (by simp [settled]), World.setTick_store, World.forgetExpired_memos,
      World.setTick_store, World.unclaim_store]
    simp [hzero, World.now, World.changeGate, settled, World.keep, World.arrive, World.claim, Keyed.put,
      Keyed.get?]
  refine ⟨_, _, _, r₃, ?_⟩
  simp [World.now, World.forgetExpired, World.changeGate, settled, World.keep, World.arrive, World.claim]

/-- After both calls of such a run the key is out of the in-flight map with its lock, and the
key remembers nothing or the latest success. -/
theorem clock_set_back_run_settles :
    ∃ tr w, GuardPool.Run ⟨Duration.ofMillis 60000⟩ "k" textKeeping (fun _ _ => True) ⟨{}, []⟩ tr
        ⟨w, [.finished (.ok "done"), .finished (.ok "done")]⟩ ∧
      w.inFlight.get? "k" = none ∧ w.gates.get? (lockName "k") = none ∧
      (w.store.memos.get? "k" = none ∨
        w.store.memos.get? "k" = latestMemo ⟨Duration.ofMillis 60000⟩ textKeeping none tr) := by
  obtain ⟨w, p, n, hrun, -⟩ := clock_set_back_run "k" textKeeping "done" 60000
  have h := single_flight rfl ⟨rfl, rfl⟩ (by decide) hrun
  exact ⟨_, w, hrun, (h.2.2.1 (by simp)).1, (h.2.2.1 (by simp)).2, h.2.2.2.1⟩

/-- With a clock set back, the operation runs again before the success recorded before it has
expired. -/
theorem clock_set_back_reruns :
    ∃ tr P, GuardPool.Run ⟨Duration.ofMillis 60000⟩ "k" textKeeping (fun _ _ => True) ⟨{}, []⟩ tr P ∧
      ∃ pre n post t, tr = pre ++ .started n :: post ∧ .recorded "done" t ∈ pre ∧
        n.sinceEpoch < (t.add (Duration.ofMillis 60000)).sinceEpoch := by
  obtain ⟨w, p, n, hrun, rfl⟩ := clock_set_back_run "k" textKeeping "done" 60000
  exact ⟨_, _, hrun, [.started ({} : World).now, .recorded "done" ({} : World).now, .purged p],
    ({} : World).now, [.recorded "done" ({} : World).now], ({} : World).now, rfl, by simp, by decide⟩

end IdempotencyGuard

end ResilientAgent
