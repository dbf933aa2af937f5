import ResilientAgent.Proofs.Bucket.Level
import ResilientAgent.Proofs.Process.Exec
import ResilientAgent.Service.Bucket

/-!
# A blocked caller's tries

A caller that blocks on a bucket tries the store, and after each denial sleeps and tries again.
What it does after a try depends on that try alone (`TokenBucket.nextAfter`): it stops with its
answer, or it naps for a time `TokenBucket.napAfter?` picks. `TokenBucket.Tries` is the list of
tries of one call together with its answer, and every finished run of `TokenBucket.consume` is
made of such tries, each answered by the store as it stood at some moment
(`TokenBucket.consume_tries`).

Three facts about the tries follow, whatever the store answers.

* With a longest wait `m`, if every nap passes on the virtual clock before the next try, the
  caller tries at most `⌈m / 1 ms⌉ + 1` times, sleeps at most `m` in all, and stops by its own
  rule before it runs out of attempts (`TokenBucket.Tries.within_maxWait`). Each nap leaves the
  next try at least a millisecond later, and no nap starts once `m` has passed.
* When refills never stop the program, the call lets the caller through exactly when a try was
  granted or the store failed (`TokenBucket.Tries.true_iff`).
* With no longest wait, against an exact bucket the caller has to itself and a wall clock that
  moves at least by each nap, the caller is let through within `BucketRates.fillAttempts` tries
  (`TokenBucket.Tries.granted_of_exact`): each nap lasts at least a millisecond, so each denied
  try finds at least `rate / 1000` more tokens than the one before, until the demand fits.
-/

namespace ResilientAgent

/-- One try of a blocked caller: the wall clock it asked the store at, what the store answered,
and the whole milliseconds of virtual time it had waited when the answer came. -/
structure BucketTry where
  now : Instant
  acquired : Except AgentError Acquire
  waitedMs : Nat

/-- The time waited when the answer came. -/
def BucketTry.waited (t : BucketTry) : Duration := Duration.ofMillis t.waitedMs

/-- What a caller does after a try: stop with its answer, or sleep and try again. -/
inductive TryNext where
  | stop (granted : Bool)
  | nap (d : Duration)
  deriving DecidableEq

namespace TokenBucket

/-- What a caller does after a try: a store that fails lets it through; an answer from a store
whose refill stops the program ends the call unanswered; a grant lets it through; a denial
ends the call or sends the caller to sleep, as `napAfter?` says. -/
def nextAfter (b : TokenBucket) (block : Bool) (t : BucketTry) : TryNext :=
  match t.acquired with
  | .error _ => .stop true
  | .ok a =>
    if b.config.refillFault?.isSome then .stop false
    else match a with
      | .granted => .stop true
      | .denied retryAfter =>
        match b.napAfter? block t.waited retryAfter with
        | none => .stop false
        | some d => .nap d

/-- The tries of a caller with `fuel` attempts left, and the call's answer: it stops at the try
its rule says to stop at and naps after every other; out of attempts, it gives up. -/
inductive Tries (b : TokenBucket) (block : Bool) : Nat → List BucketTry → Bool → Prop
  | exhausted : Tries b block 0 [] false
  | stop {fuel : Nat} {t : BucketTry} {r : Bool} (h : b.nextAfter block t = .stop r) :
      Tries b block (fuel + 1) [t] r
  | nap {fuel : Nat} {t : BucketTry} {d : Duration} {tries : List BucketTry} {r : Bool}
      (h : b.nextAfter block t = .nap d) (rest : Tries b block fuel tries r) :
      Tries b block (fuel + 1) (t :: tries) r

/-- The store answered the try as it stood at some moment. -/
def Asked (b : TokenBucket) (n : Float) (t : BucketTry) : Prop :=
  ∃ s : Store, t.acquired = (s.tryAcquire b.resource b.config n t.now).map Prod.fst

/-- The nanoseconds a caller sleeps after a try. -/
def napNanos (b : TokenBucket) (block : Bool) (t : BucketTry) : Nat :=
  match b.nextAfter block t with
  | .nap d => d.toNanos
  | .stop _ => 0

/-- The nanoseconds a caller sleeps over its tries. -/
def sleptNanos (b : TokenBucket) (block : Bool) : List BucketTry → Nat
  | [] => 0
  | t :: rest => b.napNanos block t + b.sleptNanos block rest

/-- A nap after `t` has passed on `clock` (nanoseconds) by the try `t'` after it. -/
def NapPasses (b : TokenBucket) (block : Bool) (clock : BucketTry → Int) (t t' : BucketTry) :
    Prop :=
  ∀ d, b.nextAfter block t = .nap d → clock t + d.toNanos ≤ clock t'

theorem napPasses_of_nap {b : TokenBucket} {block : Bool} {clock : BucketTry → Int}
    {t t' : BucketTry} {d : Duration} (h : b.nextAfter block t = .nap d)
    (hpass : clock t + d.toNanos ≤ clock t') : b.NapPasses block clock t t' := by
  intro d' h'
  rw [h] at h'
  cases h'
  exact hpass

end TokenBucket

/-- The virtual time a try had waited, in nanoseconds. -/
def BucketTry.waitedNanos (t : BucketTry) : Int := t.waitedMs * 1000000

/-- The wall clock a try asked at, in nanoseconds since the epoch. -/
def BucketTry.wallNanos (t : BucketTry) : Int := t.now.sinceEpoch

/-! ## Runs of the store and clock actions -/

namespace Proc.Exec

variable {α : Type} {w w' : World}

theorem awaitStore_eq {r a : Except AgentError α} (h : Exec w (Action.awaitStore r) w' (.pure a)) :
    a = r := by
  unfold Action.awaitStore at h
  obtain ⟨w₁, database, -, h⟩ := of_bind_pure h
  dsimp only at h
  split at h
  · obtain ⟨w₂, u, -, h⟩ := of_bind_pure h
    exact eq_of_pure h
  · exact eq_of_pure h

theorem update_answer {f : Store → Except AgentError (α × Store)} {a : Except AgentError α}
    (h : Exec w (Action.update f) w' (.pure a)) : ∃ s : Store, a = (f s).map Prod.fst := by
  unfold Action.update at h
  obtain ⟨w₁, r, hget, hawait⟩ := of_bind_pure h
  obtain ⟨v, hv⟩ := of_read hget
  refine ⟨v.store, ?_⟩
  rw [awaitStore_eq hawait]
  cases hf : f v.store with
  | error e =>
    simp only [hf] at hv
    rw [eq_of_pure (of_write hv)]
    rfl
  | ok p =>
    simp only [hf] at hv
    rw [eq_of_pure (of_write hv)]
    rfl

theorem elapsedSince_eq {start : Nat} {d : Duration}
    (h : Exec w (Action.elapsedSince start) w' (.pure d)) : ∃ x : Nat, d = Duration.ofMillis x := by
  unfold Action.elapsedSince at h
  obtain ⟨w₁, tick, -, h⟩ := of_bind_pure h
  exact ⟨tick - start, eq_of_pure h⟩

end Proc.Exec

/-! ## Naps -/

namespace TokenBucket

variable {b : TokenBucket} {block : Bool} {t : BucketTry} {d : Duration}

theorem nextAfter_nap (h : b.nextAfter block t = .nap d) :
    ∃ retryAfter, t.acquired = .ok (.denied retryAfter) ∧ b.config.refillFault? = none ∧
      b.napAfter? block t.waited retryAfter = some d := by
  unfold nextAfter at h
  split at h
  · cases h
  · rename_i a hacq
    split at h
    · cases h
    · rename_i hfault
      cases a with
      | granted => cases h
      | denied retryAfter =>
        simp only at h
        split at h
        · cases h
        · rename_i d' hnap
          cases h
          exact ⟨retryAfter, hacq, by simpa using hfault, hnap⟩

theorem napAfter?_within {m waited retryAfter : Duration} (hm : b.maxWait = some m)
    (h : b.napAfter? block waited retryAfter = some d) :
    waited.toNanos + d.toNanos ≤ m.toNanos ∧ 0 < d.toNanos := by
  simp only [napAfter?, hm, Option.map_some, Option.any_some] at h
  split at h
  · cases h
  · rename_i hgo
    cases h
    simp only [Bool.or_eq_true, Bool.not_eq_true', not_or, Duration.isZero,
      Duration.toNanos_saturatingSub, beq_iff_eq] at hgo
    simp only [Duration.toNanos_min, Duration.toNanos_larger, Duration.toNanos_ofMillis,
      Duration.toNanos_saturatingSub]
    omega

theorem napAfter?_of_noWait (waited retryAfter : Duration) (hm : b.maxWait = none) :
    ∃ d, b.napAfter? true waited retryAfter = some d ∧ 1000000 ≤ d.toNanos := by
  refine ⟨(retryAfter.min waitSlice).larger (Duration.ofMillis 1), by simp [napAfter?, hm], ?_⟩
  simp only [Duration.toNanos_larger, Duration.toNanos_ofMillis]
  omega

end TokenBucket

/-! ## Runs of a blocked caller -/

namespace TokenBucket

open Proc

variable (b : TokenBucket) (n : Float) (block : Bool)

theorem attempt_tries (started : Nat) (fuel : Nat) :
    Returns (fun r => ∃ tries, b.Tries block fuel tries r ∧ ∀ t ∈ tries, b.Asked n t)
      (consume.attempt b n block started fuel) := by
  induction fuel with
  | zero =>
    intro w w' r h
    rw [consume.attempt.eq_1] at h
    rw [Exec.eq_of_pure h]
    exact ⟨[], .exhausted, by simp⟩
  | succ fuel ih =>
    intro w w' r h
    rw [consume.attempt.eq_2] at h
    obtain ⟨w₁, now, -, h⟩ := Exec.of_bind_pure h
    obtain ⟨w₂, acquired, hupdate, h⟩ := Exec.of_bind_pure h
    have hasked : ∀ x, b.Asked n ⟨now, acquired, x⟩ := fun _ => Exec.update_answer hupdate
    dsimp only at h
    cases acquired with
    | error e =>
      simp only [Except.isOk, Except.toBool, Bool.false_eq_true, if_false] at h
      obtain ⟨w₃, waited, hwaited, h⟩ := Exec.of_bind_pure h
      obtain ⟨x, rfl⟩ := Exec.elapsedSince_eq hwaited
      obtain rfl := Exec.eq_of_bind_const h
      exact ⟨[⟨now, .error e, x⟩], .stop rfl, by simpa using hasked x⟩
    | ok a =>
      simp only [Except.isOk, Except.toBool, if_true] at h
      cases hfault : b.config.refillFault? with
      | some reason =>
        simp only [hfault] at h
        obtain rfl := Exec.eq_of_bind_const h
        exact ⟨[⟨now, .ok a, 0⟩], .stop (by simp [nextAfter, hfault]), by simpa using hasked 0⟩
      | none =>
        simp only [hfault] at h
        obtain ⟨w₃, waited, hwaited, h⟩ := Exec.of_bind_pure h
        obtain ⟨x, rfl⟩ := Exec.elapsedSince_eq hwaited
        obtain ⟨w₄, timed, -, h⟩ := Exec.of_bind_pure h
        cases a with
        | granted =>
          dsimp only at h
          have hr : r = true := by
            split at h
            · exact Exec.eq_of_bind_const h
            · exact Exec.eq_of_pure h
          subst hr
          exact ⟨[⟨now, .ok .granted, x⟩], .stop (by simp [nextAfter, hfault]),
            by simpa using hasked x⟩
        | denied retryAfter =>
          dsimp only at h
          cases hnap : b.napAfter? block (Duration.ofMillis x) retryAfter with
          | none =>
            simp only [hnap] at h
            obtain rfl := Exec.eq_of_bind_const h
            exact ⟨[⟨now, .ok (.denied retryAfter), x⟩],
              .stop (by simp [nextAfter, hfault, BucketTry.waited, hnap]), by simpa using hasked x⟩
          | some d =>
            simp only [hnap] at h
            obtain ⟨w₅, u, -, h⟩ := Exec.of_bind_pure h
            obtain ⟨tries, htries, hall⟩ := ih _ _ _ h
            have hnext : b.nextAfter block ⟨now, .ok (.denied retryAfter), x⟩ = .nap d := by
              simp [nextAfter, hfault, BucketTry.waited, hnap]
            exact ⟨_ :: tries, .nap hnext htries, by simpa [hasked x] using hall⟩

/-- Every finished run of `consume` refuses a demand above the burst size at once, or is a list
of tries the store answered, with the attempts the bucket allows. -/
theorem consume_tries :
    Returns (fun r => (b.config.effectiveCapacity < n ∧ r = false) ∨
        ∃ tries, b.Tries block (b.config.attemptsFor b.maxWait) tries r ∧ ∀ t ∈ tries, b.Asked n t)
      (b.consume n block) := by
  intro w w' r h
  unfold consume at h
  split at h
  · rename_i habove
    exact .inl ⟨habove, Exec.eq_of_bind_const h⟩
  · obtain ⟨w₁, started, -, h⟩ := Exec.of_bind_pure h
    exact .inr (attempt_tries b n block started _ _ _ _ h)


/-! ## Under a longest wait -/

namespace Tries

variable {b : TokenBucket} {block : Bool} {fuel : Nat} {tries : List BucketTry} {r : Bool}

theorem nap_within {m : Duration} (hm : b.maxWait = some m) {t : BucketTry} {d : Duration}
    (h : b.nextAfter block t = .nap d) :
    t.waitedMs * 1000000 + d.toNanos ≤ m.toNanos ∧ 0 < d.toNanos := by
  obtain ⟨retryAfter, -, -, hnap⟩ := nextAfter_nap h
  simpa [BucketTry.waited] using napAfter?_within hm hnap

/-- Under a longest wait `m`, when every nap has passed on the virtual clock by the next try:
counted from a first try that had waited `x` milliseconds, the caller tries at most
`⌈m⌉ - x + 1` times, sleeps at most `m - x` in all, and with more attempts than `⌈m⌉ - x`
the call ends by the rule of its last try. -/
theorem within_maxWait {m : Duration} (hm : b.maxWait = some m) (h : b.Tries block fuel tries r)
    (hpass : tries.IsChain (b.NapPasses block BucketTry.waitedNanos)) :
    ∀ t ∈ tries.head?, tries.length ≤ m.ceilMillis - t.waitedMs + 1 ∧
      b.sleptNanos block tries ≤ m.toNanos - t.waitedMs * 1000000 ∧
      (m.ceilMillis - t.waitedMs < fuel →
        ∃ last, tries.getLast? = some last ∧ b.nextAfter block last = .stop r) := by
  induction h with
  | exhausted => simp
  | @stop fuel t r hstop =>
    intro t₀ ht₀
    cases ht₀
    exact ⟨by simp, by simp [sleptNanos, napNanos, hstop], fun _ => ⟨t, rfl, hstop⟩⟩
  | @nap fuel t d rest r hnap hrest ih =>
    intro t₀ ht₀
    cases ht₀
    obtain ⟨hwithin, hpos⟩ := nap_within hm hnap
    have hnanos : b.napNanos block t = d.toNanos := by simp [napNanos, hnap]
    have hbefore : t.waitedMs < m.ceilMillis := by unfold Duration.ceilMillis; omega
    cases rest with
    | nil =>
      cases hrest
      refine ⟨by simp, by simp [sleptNanos, hnanos]; omega, fun hlt => ?_⟩
      omega
    | cons t' rest' =>
      obtain ⟨hstep, hpass'⟩ := List.isChain_cons_cons.1 hpass
      have hgap := hstep d hnap
      simp only [BucketTry.waitedNanos] at hgap
      obtain ⟨hlen, hslept, hsettled⟩ := ih hpass' t' rfl
      refine ⟨?_, ?_, fun hlt => ?_⟩
      · simp only [List.length_cons] at hlen ⊢
        omega
      · simp only [sleptNanos, hnanos] at hslept ⊢
        omega
      · rw [List.getLast?_cons_cons]
        exact hsettled (by omega)

theorem exists_cons (h : b.Tries block fuel tries r) (hfuel : 0 < fuel) :
    ∃ t rest, tries = t :: rest := by
  cases h with
  | exhausted => omega
  | stop _ => exact ⟨_, _, rfl⟩
  | nap _ _ => exact ⟨_, _, rfl⟩

theorem within_attempts {m : Duration} (hm : b.maxWait = some m)
    (h : b.Tries block (b.config.attemptsFor b.maxWait) tries r)
    (hpass : tries.IsChain (b.NapPasses block BucketTry.waitedNanos)) :
    tries.length ≤ m.ceilMillis + 1 ∧ b.sleptNanos block tries ≤ m.toNanos ∧
      ∃ t, tries.getLast? = some t ∧ b.nextAfter block t = .stop r := by
  rw [hm] at h
  have hbudget : m.ceilMillis + 1 ≤ b.config.attemptsFor (some m) := le_max_right _ _
  obtain ⟨t, rest, rfl⟩ := exists_cons h (by omega)
  obtain ⟨hlen, hslept, hsettled⟩ := within_maxWait hm h hpass t rfl
  exact ⟨by omega, by omega, hsettled (by omega)⟩

theorem stop_true_iff (hfault : b.config.refillFault? = none) {t : BucketTry}
    (h : b.nextAfter block t = .stop r) :
    r = true ↔ t.acquired = .ok .granted ∨ ∃ e, t.acquired = .error e := by
  cases hacq : t.acquired with
  | error e =>
    simp only [nextAfter, hacq, TryNext.stop.injEq] at h
    simp [← h]
  | ok a =>
    cases a with
    | granted =>
      simp only [nextAfter, hacq, hfault, Option.isSome_none, Bool.false_eq_true, if_false,
        TryNext.stop.injEq] at h
      simp [← h]
    | denied retryAfter =>
      simp only [nextAfter, hacq, hfault, Option.isSome_none, Bool.false_eq_true, if_false] at h
      split at h
      · cases h
        simp
      · cases h

/-- For a bucket whose refill does not stop the program, the call lets the caller through
exactly when one of its tries was granted or the store failed. -/
theorem true_iff (hfault : b.config.refillFault? = none) (h : b.Tries block fuel tries r) :
    r = true ↔ ∃ t ∈ tries, t.acquired = .ok .granted ∨ ∃ e, t.acquired = .error e := by
  induction h with
  | exhausted => simp
  | stop hstop => simpa using stop_true_iff hfault hstop
  | nap hnap hrest ih =>
    obtain ⟨retryAfter, hacq, -, -⟩ := nextAfter_nap hnap
    simp [ih, hacq]

end Tries


end TokenBucket

/-! ## An exact bucket the caller has to itself -/

/-- The answer a store gives for a take: a grant as a grant, a shortfall as a denial. -/
def Grant.Reports {α : Type} : Grant α → Acquire → Prop
  | .granted, .granted => True
  | .short _, .denied _ => True
  | _, _ => False

/-- The tries were answered by an exact bucket `c` that only this caller takes from, starting
at the level `s` and refilled at the instants the tries asked at; a store that fails leaves the
bucket as it is. -/
inductive AnsweredExactly (c : BucketRates ℚ) (n : ℚ) : BucketLevel ℚ → List BucketTry → Prop
  | nil {s : BucketLevel ℚ} : AnsweredExactly c n s []
  | failed {s : BucketLevel ℚ} {t : BucketTry} {tries : List BucketTry} {e : AgentError}
      (h : t.acquired = .error e) (rest : AnsweredExactly c n s tries) :
      AnsweredExactly c n s (t :: tries)
  | answered {s : BucketLevel ℚ} {t : BucketTry} {tries : List BucketTry} {a : Acquire}
      (h : t.acquired = .ok a) (hreport : (s.take c n t.now).1.Reports a)
      (rest : AnsweredExactly c n (s.take c n t.now).2 tries) : AnsweredExactly c n s (t :: tries)

section Exact

variable {c : BucketRates ℚ} {s : BucketLevel ℚ} {n : ℚ}

theorem min_le_clampBetween (x hi : ℚ) : min hi x ≤ clampBetween x 0 hi := by
  rw [clampBetween_rat]
  split_ifs with hlo hhi
  · exact (min_le_right _ _).trans hlo.le
  · exact min_le_left _ _
  · exact min_le_right _ _

theorem min_zero_le_clampBetween (x hi : ℚ) : min hi 0 ≤ clampBetween x 0 hi := by
  rw [clampBetween_rat]
  split_ifs with hlo hhi
  · exact min_le_right _ _
  · exact min_le_left _ _
  · exact (min_le_right _ _).trans (not_lt.mp hlo)

theorem milli_le_elapsedSecs {a b : Instant} (h : a.sinceEpoch + 1000000 ≤ b.sinceEpoch) :
    (1 / 1000 : ℚ) ≤ Instant.elapsedSecs a b := by
  have hms : 1 ≤ Instant.millisBetween a b := by
    unfold Instant.millisBetween
    rw [Int.tdiv_eq_ediv_of_nonneg (by omega)]
    omega
  have hcast : (1 : ℚ) ≤ Instant.millisBetween a b := by exact_mod_cast hms
  rw [elapsedSecs_rat, if_neg (by omega)]
  linarith

theorem BucketLevel.refill_gain (hrate : 0 ≤ c.rate) {now : Instant}
    (h : s.lastRefillAt.sinceEpoch + 1000000 ≤ now.sinceEpoch) :
    min c.effectiveCapacity (s.tokens + c.rate / 1000) ≤ (s.refill c now).tokens := by
  have helapsed := milli_le_elapsedSecs h
  have hmore : s.tokens + c.rate / 1000 ≤
      s.tokens + Instant.elapsedSecs s.lastRefillAt now * c.rate := by
    nlinarith
  rw [BucketLevel.refill_tokens]
  exact (min_le_min_left _ hmore).trans (min_le_clampBetween _ _)

theorem BucketRates.fillAttempts_rat (c : BucketRates ℚ) :
    c.fillAttempts = ⌈c.effectiveCapacity / (c.rate / 1000)⌉₊ + 1 := by
  show ⌈c.effectiveCapacity / (c.rate * (((1 : ℤ) : ℚ) / 1000))⌉₊ + 1 = _
  rw [Int.cast_one, mul_one_div]

theorem add_two_le_fillAttempts (hrate : 0 < c.rate) (hn : n ≤ c.effectiveCapacity) {j : ℕ}
    {level : ℚ} (hlevel : min c.effectiveCapacity (j * (c.rate / 1000)) ≤ level)
    (hshort : level < n) : j + 2 ≤ c.fillAttempts := by
  have hbelow : (j : ℚ) * (c.rate / 1000) < c.effectiveCapacity := by
    rcases min_le_iff.1 hlevel with hcap | hj
    · linarith
    · linarith
  have hj : (j : ℚ) < c.effectiveCapacity / (c.rate / 1000) := by
    rw [lt_div_iff₀ (by positivity)]
    exact hbelow
  have hceil := Nat.lt_ceil.2 hj
  rw [BucketRates.fillAttempts_rat]
  omega

theorem refill_after_denial (hrate : 0 < c.rate) (hn : n ≤ c.effectiveCapacity) {j : ℕ}
    {now now' : Instant} (hmark : s.lastRefillAt.sinceEpoch ≤ now.sinceEpoch)
    (hlevel : min c.effectiveCapacity (j * (c.rate / 1000)) ≤ (s.refill c now).tokens)
    (hshort : (s.refill c now).tokens < n) (hlater : now.sinceEpoch + 1000000 ≤ now'.sinceEpoch) :
    min c.effectiveCapacity ((j + 1 : ℕ) * (c.rate / 1000)) ≤
      ((s.refill c now).refill c now').tokens := by
  have hfound : (j : ℚ) * (c.rate / 1000) ≤ (s.refill c now).tokens := by
    rcases min_le_iff.1 hlevel with hcap | hj
    · linarith
    · exact hj
  have hmark' : (s.refill c now).lastRefillAt.sinceEpoch = now.sinceEpoch := by
    rw [BucketLevel.refill_mark]
    omega
  have hnext : (s.refill c now).lastRefillAt.sinceEpoch + 1000000 ≤ now'.sinceEpoch := by
    rw [hmark']
    exact hlater
  have hgain := BucketLevel.refill_gain hrate.le hnext
  refine le_trans (min_le_min_left _ ?_) hgain
  push_cast
  linarith

end Exact

theorem AnsweredExactly.denied {c : BucketRates ℚ} {n : ℚ} {s : BucketLevel ℚ} {t : BucketTry}
    {rest : List BucketTry} {retryAfter : Duration} (h : AnsweredExactly c n s (t :: rest))
    (hacq : t.acquired = .ok (.denied retryAfter)) :
    (s.refill c t.now).tokens < n ∧ AnsweredExactly c n (s.refill c t.now) rest := by
  cases h with
  | failed he _ =>
    rw [hacq] at he
    cases he
  | answered ha hreport hrest =>
    rw [hacq] at ha
    cases ha
    rcases BucketLevel.take_cases s c n t.now with ⟨-, heq⟩ | ⟨hlt, heq⟩
    · rw [heq] at hreport
      exact hreport.elim
    · rw [heq] at hrest
      exact ⟨hlt, hrest⟩

namespace TokenBucket.Tries

variable {b : TokenBucket} {fuel : Nat} {tries : List BucketTry} {r : Bool}

theorem milli_le_nap (hm : b.maxWait = none) {t : BucketTry} {d : Duration}
    (h : b.nextAfter true t = .nap d) : 1000000 ≤ d.toNanos := by
  obtain ⟨retryAfter, -, -, hnap⟩ := nextAfter_nap h
  obtain ⟨d', hd', hmilli⟩ := napAfter?_of_noWait t.waited retryAfter hm
  rw [hnap] at hd'
  cases hd'
  exact hmilli

theorem stop_true_of_noWait (hm : b.maxWait = none) (hfault : b.config.refillFault? = none)
    {t : BucketTry} (h : b.nextAfter true t = .stop r) : r = true := by
  cases hacq : t.acquired with
  | error e => simpa [nextAfter, hacq] using h.symm
  | ok a =>
    cases a with
    | granted => simpa [nextAfter, hacq, hfault] using h.symm
    | denied retryAfter =>
      obtain ⟨d, hnap, -⟩ := napAfter?_of_noWait t.waited retryAfter hm
      simp [nextAfter, hacq, hfault, hnap] at h

variable {c : BucketRates ℚ} {n : ℚ}

theorem granted_within (hm : b.maxWait = none) (hfault : b.config.refillFault? = none)
    (hrate : 0 < c.rate) (hn : n ≤ c.effectiveCapacity) (h : b.Tries true fuel tries r) :
    ∀ (j : ℕ) (s : BucketLevel ℚ), AnsweredExactly c n s tries →
      tries.IsChain (b.NapPasses true BucketTry.wallNanos) →
      (∀ t ∈ tries.head?, s.lastRefillAt.sinceEpoch ≤ t.now.sinceEpoch ∧
        min c.effectiveCapacity (j * (c.rate / 1000)) ≤ (s.refill c t.now).tokens) →
      c.fillAttempts ≤ j + fuel → j < c.fillAttempts →
      r = true ∧ j + tries.length ≤ c.fillAttempts := by
  induction h with
  | exhausted =>
    intro j s _ _ _ hfuel hj
    omega
  | stop hstop =>
    intro j s _ _ _ _ hj
    exact ⟨stop_true_of_noWait hm hfault hstop, by simp; omega⟩
  | @nap fuel t d rest r hnap hrest ih =>
    intro j s hexact hpass hhead hfuel hj
    obtain ⟨hmark, hlevel⟩ := hhead t rfl
    obtain ⟨retryAfter, hacq, -, -⟩ := nextAfter_nap hnap
    obtain ⟨hshort, hexact'⟩ := hexact.denied hacq
    have hroom := add_two_le_fillAttempts hrate hn hlevel hshort
    cases rest with
    | nil =>
      cases hrest
      omega
    | cons t' rest' =>
      obtain ⟨hstep, hpass'⟩ := List.isChain_cons_cons.1 hpass
      have hlater : t.now.sinceEpoch + 1000000 ≤ t'.now.sinceEpoch := by
        have hgap := hstep d hnap
        have hmilli := milli_le_nap hm hnap
        simp only [BucketTry.wallNanos] at hgap
        omega
      have hhead' : ∀ t₀ ∈ (t' :: rest').head?,
          (s.refill c t.now).lastRefillAt.sinceEpoch ≤ t₀.now.sinceEpoch ∧
            min c.effectiveCapacity ((j + 1 : ℕ) * (c.rate / 1000)) ≤
              ((s.refill c t.now).refill c t₀.now).tokens := by
        intro t₀ ht₀
        cases ht₀
        refine ⟨?_, refill_after_denial hrate hn hmark hlevel hshort hlater⟩
        rw [BucketLevel.refill_mark]
        omega
      obtain ⟨hr, hlen⟩ := ih (j + 1) _ hexact' hpass' hhead' (by omega) (by omega)
      simp only [List.length_cons] at hlen ⊢
      exact ⟨hr, by omega⟩

/-- With no longest wait and a bucket whose refill does not stop the program: when an exact
bucket with a positive rate, that only this caller takes from, answers its tries, the demand
fits the burst size, the wall clock never stands before the bucket's last refill and moves at
least by each nap, the call lets the caller through, within the bucket's fill attempts. -/
theorem granted_of_exact (hm : b.maxWait = none) (hfault : b.config.refillFault? = none)
    (hrate : 0 < c.rate) (hn : n ≤ c.effectiveCapacity) {s : BucketLevel ℚ}
    (h : b.Tries true (c.attemptsFor none) tries r) (hexact : AnsweredExactly c n s tries)
    (hpass : tries.IsChain (b.NapPasses true BucketTry.wallNanos))
    (hstart : ∀ t ∈ tries.head?, s.lastRefillAt.sinceEpoch ≤ t.now.sinceEpoch) :
    r = true ∧ tries.length ≤ c.fillAttempts := by
  have hfirst : ∀ t ∈ tries.head?, s.lastRefillAt.sinceEpoch ≤ t.now.sinceEpoch ∧
      min c.effectiveCapacity ((0 : ℕ) * (c.rate / 1000)) ≤ (s.refill c t.now).tokens := by
    intro t ht
    refine ⟨hstart t ht, ?_⟩
    rw [Nat.cast_zero, zero_mul, BucketLevel.refill_tokens]
    exact min_zero_le_clampBetween _ _
  have hbudget : c.fillAttempts ≤ c.attemptsFor none := le_max_right _ _
  have hpos : 0 < c.fillAttempts := by
    rw [BucketRates.fillAttempts_rat]
    omega
  simpa using granted_within hm hfault hrate hn h 0 s hexact hpass hfirst (by omega) hpos

end TokenBucket.Tries

/-! ## Blocking on a bucket -/

/-- A blocking call of `consume` refuses a demand above the burst size at once; otherwise its
finished runs are tries the store answered, with the attempts the bucket allows. Under a
longest wait `m`, when each nap passes on the virtual clock by the next try, the caller tries at
most `⌈m / 1 ms⌉ + 1` times, sleeps at most `m` in all, and the call ends by the rule of its last
try. When refills never stop the program, the caller goes on exactly when a try was granted or
the store failed. With no longest wait, when an exact bucket with a positive rate that only this
caller takes from answers, the demand fits its burst size, and the wall clock never stands
before the bucket's last refill and moves at least by each nap, the caller goes on within the
bucket's fill attempts. -/
theorem blocking_consume_terminates (b : TokenBucket) (n : Float) :
    Proc.Returns (fun r => (b.config.effectiveCapacity < n ∧ r = false) ∨
        ∃ tries, b.Tries true (b.config.attemptsFor b.maxWait) tries r ∧
          ∀ t ∈ tries, b.Asked n t) (b.consume n true) ∧
      (∀ m, b.maxWait = some m → ∀ tries r,
        b.Tries true (b.config.attemptsFor b.maxWait) tries r →
        tries.IsChain (b.NapPasses true BucketTry.waitedNanos) →
        tries.length ≤ m.ceilMillis + 1 ∧ b.sleptNanos true tries ≤ m.toNanos ∧
          ∃ t, tries.getLast? = some t ∧ b.nextAfter true t = .stop r) ∧
      (b.config.refillFault? = none → ∀ fuel tries r, b.Tries true fuel tries r →
        (r = true ↔ ∃ t ∈ tries, t.acquired = .ok .granted ∨ ∃ e, t.acquired = .error e)) ∧
      (b.maxWait = none → b.config.refillFault? = none →
        ∀ (c : BucketRates ℚ) (demand : ℚ) (s : BucketLevel ℚ) tries r, 0 < c.rate →
          demand ≤ c.effectiveCapacity → b.Tries true (c.attemptsFor none) tries r →
          AnsweredExactly c demand s tries →
          tries.IsChain (b.NapPasses true BucketTry.wallNanos) →
          (∀ t ∈ tries.head?, s.lastRefillAt.sinceEpoch ≤ t.now.sinceEpoch) →
          r = true ∧ tries.length ≤ c.fillAttempts) :=
  ⟨TokenBucket.consume_tries b n true,
    fun _ hm _ _ h hpass => TokenBucket.Tries.within_attempts hm h hpass,
    fun hfault _ _ _ h => TokenBucket.Tries.true_iff hfault h,
    fun hm hfault _ _ _ _ _ hrate hn h hexact hpass hstart =>
      TokenBucket.Tries.granted_of_exact hm hfault hrate hn h hexact hpass hstart⟩

/-- Two blocked callers. One waits at most 250 ms at a bucket that keeps saying a token is a
second away: it naps 100, 100 and 50 ms and gives up at its fourth try, having slept the whole
250 ms. The other waits as long as it takes at an exact bucket of a token a millisecond, empty at
first: denied at once, it naps a millisecond and is let through at its second try. -/
theorem blocking_consume_examples :
    let waiting : TokenBucket :=
      { resource := "r", config := ⟨1.0, some 1.0⟩, maxWait := some (Duration.ofMillis 250) }
    let denial : Except AgentError Acquire := .ok (.denied (Duration.ofSecs 1))
    let waits : List BucketTry :=
      [⟨Instant.scriptEpoch, denial, 0⟩, ⟨Instant.scriptEpoch, denial, 100⟩,
        ⟨Instant.scriptEpoch, denial, 200⟩, ⟨Instant.scriptEpoch, denial, 250⟩]
    let filling : TokenBucket := { resource := "r", config := ⟨1000.0, some 1.0⟩ }
    let c : BucketRates ℚ := ⟨1000, some 1⟩
    let s : BucketLevel ℚ := ⟨0, Instant.scriptEpoch⟩
    let fills : List BucketTry :=
      [⟨Instant.scriptEpoch, .ok (.denied (Duration.ofMillis 1)), 0⟩,
        ⟨Instant.scriptEpoch.addMillis 1, .ok .granted, 1⟩]
    waiting.Tries true (waiting.config.attemptsFor waiting.maxWait) waits false ∧
      waits.IsChain (waiting.NapPasses true BucketTry.waitedNanos) ∧
      waits.length ≤ (Duration.ofMillis 250).ceilMillis + 1 ∧
      waiting.sleptNanos true waits ≤ (Duration.ofMillis 250).toNanos ∧
      filling.Tries true (c.attemptsFor none) fills true ∧ AnsweredExactly c 1 s fills ∧
      fills.IsChain (filling.NapPasses true BucketTry.wallNanos) ∧ fills.length ≤ c.fillAttempts := by
  intro waiting denial waits filling c s fills
  have hbudget : waiting.config.attemptsFor waiting.maxWait = 999996 + 4 := by decide
  have hwaits : waiting.Tries true (waiting.config.attemptsFor waiting.maxWait) waits false := by
    rw [hbudget]
    exact .nap (d := Duration.ofMillis 100) (by decide) (.nap (d := Duration.ofMillis 100)
      (by decide) (.nap (d := Duration.ofMillis 50) (by decide) (.stop (by decide))))
  have hwaitsPass : waits.IsChain (waiting.NapPasses true BucketTry.waitedNanos) := by
    refine List.isChain_cons_cons.2 ⟨TokenBucket.napPasses_of_nap (d := Duration.ofMillis 100)
      (by decide) (by decide), List.isChain_cons_cons.2 ⟨TokenBucket.napPasses_of_nap
      (d := Duration.ofMillis 100) (by decide) (by decide), List.isChain_cons_cons.2
      ⟨TokenBucket.napPasses_of_nap (d := Duration.ofMillis 50) (by decide) (by decide),
        List.isChain_singleton _⟩⟩⟩
  obtain ⟨hlen, hslept, -⟩ :=
    (blocking_consume_terminates waiting 1.0).2.1 _ rfl waits false hwaits hwaitsPass
  have hfault : filling.config.refillFault? = none := by decide
  have hfill : c.fillAttempts = 2 := by
    rw [BucketRates.fillAttempts_rat]
    norm_num [c, BucketRates.effectiveCapacity]
  have hbudget' : c.attemptsFor none = 999998 + 2 := by
    show max bucketAttempts c.fillAttempts = _
    rw [hfill]
    rfl
  have hfills : filling.Tries true (c.attemptsFor none) fills true := by
    rw [hbudget']
    exact .nap (d := Duration.ofMillis 1) (by decide) (.stop (by decide))
  have hshort : (s.take c 1 Instant.scriptEpoch).1 = .short 1 := by decide +kernel
  have hgrant : ((s.take c 1 Instant.scriptEpoch).2.take c 1 (Instant.scriptEpoch.addMillis 1)).1 =
      .granted := by decide +kernel
  have hexact : AnsweredExactly c 1 s fills :=
    .answered rfl (by rw [hshort]; trivial) (.answered rfl (by rw [hgrant]; trivial) .nil)
  have hfillsPass : fills.IsChain (filling.NapPasses true BucketTry.wallNanos) :=
    List.isChain_cons_cons.2 ⟨TokenBucket.napPasses_of_nap (d := Duration.ofMillis 1) (by decide)
      (by decide), List.isChain_singleton _⟩
  have hstart : ∀ t ∈ fills.head?, s.lastRefillAt.sinceEpoch ≤ t.now.sinceEpoch := by
    intro t ht
    simp only [fills, List.head?_cons, Option.mem_def, Option.some.injEq] at ht
    subst ht
    exact le_refl _
  obtain ⟨-, hfillLen⟩ := (blocking_consume_terminates filling 1.0).2.2.2 rfl hfault c 1 s fills
    true (by norm_num [c]) (by norm_num [c, BucketRates.effectiveCapacity]) hfills hexact
    hfillsPass hstart
  exact ⟨hwaits, hwaitsPass, hlen, hslept, hfills, hexact, hfillsPass, hfillLen⟩

/-- A bucket with a capacity below zero: a blocked caller asking for less than the capacity,
at a bucket that earns a token a second, never goes on. Its first refill cannot keep the level
within `[0, capacity]`, and the run stops there. -/
theorem negative_capacity_stops_blocked_caller :
    let b : TokenBucket := { resource := "r", config := ⟨1.0, some (-1.0)⟩ }
    let run := (Session.ofWorld {}).perform (b.consume (-2.0) true)
    (-2.0 : Float) ≤ b.config.effectiveCapacity ∧ 0.0 < b.config.rate ∧ b.maxWait = none ∧
      run.1 = some false ∧
      run.2.world.halted = some "min > max, or either was NaN. min = 0.0, max = -1.0" := by
  intro b run
  refine ⟨by decide, by decide, rfl, by decide, ?_⟩
  decide +kernel

end ResilientAgent
