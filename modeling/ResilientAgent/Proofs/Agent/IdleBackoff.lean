import Mathlib
import ResilientAgent.Agent.Pool

/-!
# The idle waits of a worker

After an empty or failed poll a worker sleeps for the wait its schedule hands out, and the
schedule doubles the wait for next time, bounded by the most; a job brings it back to the least
(`IdleBackoff.reset_eq_start`). The doubling comes before the bound, so it must itself fit in a
duration: a call whose current wait is longer than half the longest duration panics, and the
worker's task is gone.

From a current wait no longer than the most, the `j`-th call hands out the current wait times
`2^j`, bounded by the most, for as long as no call overflowed (`IdleBackoff.sleeps_eq`). Whether
one overflows depends only on the waits handed out, so when twice the most fits in a duration
nothing overflows and the waits are exactly `min (least * 2^j) most`: never shorter than the one
before, never longer than the most (`idle_sleeps_double_up_to_most`). A most past half the
longest duration is accepted by the settings all the same, and then the doubling overflows as
soon as the wait passes that half: with the least and the most both `10^19` seconds, the first
call already panics (`idle_backoff_overflows_at_first_call`).
-/

namespace ResilientAgent

namespace IdleBackoff

/-- The waits handed out by the first `k` calls, in order; nothing if one of them panics. -/
def sleeps (b : IdleBackoff) : Nat → Option (List Duration)
  | 0 => some []
  | k + 1 => do
    let (d, b') ← b.next
    return d :: (← b'.sleeps k)

/-- The wait of the `j`-th call counted from `b`, when no call before it overflowed: the current
wait doubled `j` times, bounded by the most. -/
def waitAt (b : IdleBackoff) (j : Nat) : Duration :=
  ⟨min (b.current.toNanos * 2 ^ j) b.most.toNanos⟩

/-- The waits the documentation describes for `k` calls from a fresh schedule: `least * 2^j`,
bounded by `most`. -/
def doublingWaits (least most : Duration) (k : Nat) : List Duration :=
  (List.range k).map fun j => Duration.min ⟨least.toNanos * 2 ^ j⟩ most

/-- A job brings the schedule back to where a fresh one starts. -/
theorem reset_eq_start (b : IdleBackoff) : b.reset = start b.least b.most := rfl

theorem next_eq (b : IdleBackoff) :
    b.next = if 2 * b.current.toNanos ≤ Duration.max.toNanos
      then some (b.current, { b with current := ⟨min (2 * b.current.toNanos) b.most.toNanos⟩ })
      else none := by
  unfold next Duration.checkedMul?
  rw [Nat.mul_comm b.current.toNanos 2]
  split
  · simp [Duration.min, Nat.min_def]
    split <;> rfl
  · rfl

theorem waitAt_succ {b : IdleBackoff} (j : Nat) :
    waitAt { b with current := ⟨min (2 * b.current.toNanos) b.most.toNanos⟩ } j =
      waitAt b (j + 1) := by
  simp only [waitAt, Duration.mk.injEq]
  have hm : b.most.toNanos ≤ b.most.toNanos * 2 ^ j :=
    Nat.le_mul_of_pos_right _ (Nat.two_pow_pos j)
  have hdouble : 2 * b.current.toNanos * 2 ^ j = 2 * (b.current.toNanos * 2 ^ j) := by ring
  have hsucc : b.current.toNanos * 2 ^ (j + 1) = 2 * (b.current.toNanos * 2 ^ j) := by ring
  rw [← Nat.mul_min_mul_right, hdouble, hsucc]
  generalize b.current.toNanos * 2 ^ j = x at *
  generalize b.most.toNanos * 2 ^ j = y at *
  omega

theorem waitAt_zero {b : IdleBackoff} (h : b.current ≤ b.most) : waitAt b 0 = b.current := by
  have h' : b.current.toNanos ≤ b.most.toNanos := h
  simp [waitAt, Nat.min_eq_left h']

/-- The waits of `k` calls from a current wait no longer than the most: the `j`-th is `waitAt b
j`, unless the doubling in one of the calls overflowed. -/
theorem sleeps_eq {b : IdleBackoff} (h : b.current ≤ b.most) (k : Nat) :
    b.sleeps k = if ∀ j < k, 2 * (b.waitAt j).toNanos ≤ Duration.max.toNanos
      then some ((List.range k).map b.waitAt) else none := by
  -- induction on the number of calls, over every schedule whose wait is within its most
  induction k generalizing b with
  | zero => simp [sleeps]
  | succ k ih =>
    by_cases hfit : 2 * b.current.toNanos ≤ Duration.max.toNanos
    · -- the first call hands out the current wait; the rest count from the doubled wait
      obtain ⟨b', hb'⟩ : ∃ b' : IdleBackoff,
          b' = { b with current := ⟨min (2 * b.current.toNanos) b.most.toNanos⟩ } := ⟨_, rfl⟩
      have hnext : b.next = some (b.current, b') := by rw [next_eq, if_pos hfit, hb']
      have h' : b'.current ≤ b'.most := by
        subst hb'
        exact Nat.min_le_right _ _
      have hrest : ∀ j, b'.waitAt j = b.waitAt (j + 1) := by
        subst hb'
        exact waitAt_succ
      have hfits : (∀ j < k + 1, 2 * (b.waitAt j).toNanos ≤ Duration.max.toNanos) ↔
          ∀ j < k, 2 * (b'.waitAt j).toNanos ≤ Duration.max.toNanos := by
        rw [Nat.forall_lt_succ_left, waitAt_zero h]
        simp only [hrest, hfit, true_and]
      have hwaits : (List.range (k + 1)).map b.waitAt =
          b.current :: (List.range k).map b'.waitAt := by
        simp [List.range_succ_eq_map, waitAt_zero h, Function.comp_def, hrest]
      rw [sleeps, hnext]
      simp only [Option.bind_eq_bind, Option.bind_some]
      rw [ih h', hwaits]
      by_cases hrestfit : ∀ j < k, 2 * (b'.waitAt j).toNanos ≤ Duration.max.toNanos
      · rw [if_pos hrestfit, if_pos (hfits.2 hrestfit)]
        rfl
      · rw [if_neg hrestfit, if_neg (mt hfits.1 hrestfit)]
        rfl
    · -- the first call overflows: no waits at all
      have hzero : ¬∀ j < k + 1, 2 * (b.waitAt j).toNanos ≤ Duration.max.toNanos :=
        fun hall => hfit (by simpa [waitAt_zero h] using hall 0 (Nat.succ_pos k))
      rw [sleeps, next_eq, if_neg hfit, if_neg hzero]
      rfl

theorem waitAt_start (least most : Duration) (j : Nat) :
    (start least most).waitAt j = Duration.min ⟨least.toNanos * 2 ^ j⟩ most := by
  simp only [waitAt, start]
  rw [← Duration.toNanos_min]

theorem doublingWaits_pairwise (least most : Duration) (k : Nat) :
    (doublingWaits least most k).Pairwise (· ≤ ·) := by
  refine List.pairwise_map.2 ((List.pairwise_lt_range (n := k)).imp fun {i j} hij => ?_)
  show (Duration.min _ most).toNanos ≤ (Duration.min _ most).toNanos
  simp only [Duration.toNanos_min]
  exact min_le_min_right _
    (Nat.mul_le_mul_left _ (Nat.pow_le_pow_right (by decide) (Nat.le_of_lt hij)))

theorem doublingWaits_le {least most : Duration} {k : Nat} {d : Duration}
    (hd : d ∈ doublingWaits least most k) : d ≤ most := by
  obtain ⟨j, -, rfl⟩ := List.mem_map.1 hd
  show (Duration.min _ most).toNanos ≤ most.toNanos
  simp

end IdleBackoff

/-! ## The waits a worker sleeps -/

/-- When twice the most fits in a duration, the waits of `k` calls from a fresh schedule, or from
one a job brought back, are `least * 2^j` bounded by `most`: no call overflows, each wait is at
least the one before, and none is longer than `most`. -/
theorem idle_sleeps_double_up_to_most {least most : Duration} (hle : least ≤ most)
    (hfits : 2 * most.toNanos ≤ Duration.max.toNanos) (k : Nat) :
    (IdleBackoff.start least most).sleeps k = some (IdleBackoff.doublingWaits least most k) ∧
      (∀ b : IdleBackoff, b.least = least → b.most = most →
        b.reset.sleeps k = some (IdleBackoff.doublingWaits least most k)) ∧
      (IdleBackoff.doublingWaits least most k).Pairwise (· ≤ ·) ∧
      ∀ d ∈ IdleBackoff.doublingWaits least most k, d ≤ most := by
  have hall : ∀ j < k, 2 * ((IdleBackoff.start least most).waitAt j).toNanos ≤
      Duration.max.toNanos := fun j _ =>
    Nat.le_trans (Nat.mul_le_mul_left 2 (Nat.min_le_right _ _)) hfits
  have hwaits : (List.range k).map (IdleBackoff.start least most).waitAt =
      IdleBackoff.doublingWaits least most k := by
    rw [funext (IdleBackoff.waitAt_start least most)]
    rfl
  have hstart : (IdleBackoff.start least most).sleeps k =
      some (IdleBackoff.doublingWaits least most k) := by
    rw [IdleBackoff.sleeps_eq hle, if_pos hall, hwaits]
  refine ⟨hstart, ?_, IdleBackoff.doublingWaits_pairwise least most k,
    fun _ => IdleBackoff.doublingWaits_le⟩
  rintro b rfl rfl
  rw [IdleBackoff.reset_eq_start, hstart]

example : (IdleBackoff.start (Duration.ofMillis 100) (Duration.ofSecs 2)).sleeps 6 =
    some ([100, 200, 400, 800, 1600, 2000].map Duration.ofMillis) := by
  decide

/-- The waits of the default settings, 100 ms up to 2 s, over six calls. -/
theorem default_idle_sleeps_double_up_to_two_seconds :
    Duration.ofMillis 100 ≤ Duration.ofSecs 2 ∧
      2 * (Duration.ofSecs 2).toNanos ≤ Duration.max.toNanos ∧
      ((IdleBackoff.start (Duration.ofMillis 100) (Duration.ofSecs 2)).sleeps 6 =
          some (IdleBackoff.doublingWaits (Duration.ofMillis 100) (Duration.ofSecs 2) 6) ∧
        (∀ b : IdleBackoff, b.least = Duration.ofMillis 100 → b.most = Duration.ofSecs 2 →
          b.reset.sleeps 6 =
            some (IdleBackoff.doublingWaits (Duration.ofMillis 100) (Duration.ofSecs 2) 6)) ∧
        (IdleBackoff.doublingWaits (Duration.ofMillis 100) (Duration.ofSecs 2) 6).Pairwise (· ≤ ·) ∧
        ∀ d ∈ IdleBackoff.doublingWaits (Duration.ofMillis 100) (Duration.ofSecs 2) 6,
          d ≤ Duration.ofSecs 2) :=
  ⟨by decide, by decide, idle_sleeps_double_up_to_most (by decide) (by decide) 6⟩

/-- With the least and the most both `10^19` seconds, more than half the longest duration, the
very first call panics: it hands out no wait at all. -/
theorem idle_backoff_overflows_at_first_call :
    Duration.ofSecs (10 ^ 19) ≤ Duration.ofSecs (10 ^ 19) ∧
      (IdleBackoff.start (Duration.ofSecs (10 ^ 19)) (Duration.ofSecs (10 ^ 19))).sleeps 1 = none :=
  ⟨Nat.le_refl _, by decide⟩

end ResilientAgent
