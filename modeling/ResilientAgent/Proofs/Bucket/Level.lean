import Mathlib.Algebra.Order.Field.Rat
import Mathlib.Data.Rat.Cast.Order
import Mathlib.Data.Rat.Floor
import Mathlib.Tactic.Linarith
import Mathlib.Tactic.NormNum
import Mathlib.Tactic.Positivity
import Mathlib.Tactic.Ring
import ResilientAgent.Resilience.Bucket

/-!
# What a token bucket holds and what it grants

Counted in exact rationals, a bucket obeys the rules its level is written with, without
rounding. Two laws follow.

The level stays between zero and the burst size as long as every demand is at least zero: a
refill clamps into that range, and a granted demand takes no more than is there. A demand below
zero breaks it: it is granted at once and lifts the level above the burst size.

Whatever the demands and whatever order their instants come in, a bucket started full grants no
more in all than its burst size plus what its rate earns from the start to the latest instant
seen. The argument is an invariant: the tokens granted so far plus the tokens held never exceed
the burst size plus the rate times the seconds from the start to the refill mark. A refill adds
at most the rate times the seconds the mark moves (elapsed time is cut to whole milliseconds, and
a clock that steps back earns nothing and leaves the mark where it is), and a grant moves tokens
from the bucket to the total.
-/

namespace ResilientAgent

/-- Exact rationals count seconds without rounding. -/
instance : SecondsCount ℚ where
  ofMillis ms := (ms : ℚ) / 1000

instance : TokenCount ℚ where
  decLt := inferInstance
  decLe := inferInstance
  ceilNat q := ⌈q⌉₊

/-- The seconds from `a` to `b`, exactly; negative when `b` is earlier. -/
def secondsBetween (a b : Instant) : ℚ := ((b.sinceEpoch - a.sinceEpoch : ℤ) : ℚ) / 1000000000

theorem secondsBetween_self (a : Instant) : secondsBetween a a = 0 := by
  simp [secondsBetween]

theorem secondsBetween_add (a b c : Instant) :
    secondsBetween a b + secondsBetween b c = secondsBetween a c := by
  simp only [secondsBetween, Int.cast_sub]
  ring

theorem secondsBetween_le_of_le {a b c : Instant} (h : b.sinceEpoch ≤ c.sinceEpoch) :
    secondsBetween a b ≤ secondsBetween a c := by
  have hcast : (b.sinceEpoch : ℚ) ≤ c.sinceEpoch := by exact_mod_cast h
  simp only [secondsBetween, Int.cast_sub]
  gcongr

/-! ## Elapsed time -/

section Elapsed

variable {a b : Instant}

theorem elapsedSecs_rat :
    (Instant.elapsedSecs a b : ℚ) =
      if Instant.millisBetween a b ≤ 0 then 0 else (Instant.millisBetween a b : ℚ) / 1000 :=
  rfl

theorem elapsedSecs_nonneg : (0 : ℚ) ≤ Instant.elapsedSecs a b := by
  rw [elapsedSecs_rat]
  split
  · exact le_rfl
  · rename_i hpos
    have : (0 : ℚ) < Instant.millisBetween a b := by exact_mod_cast not_le.mp hpos
    positivity

theorem elapsedSecs_of_le (h : b.sinceEpoch ≤ a.sinceEpoch) : (Instant.elapsedSecs a b : ℚ) = 0 := by
  have hms : Instant.millisBetween a b ≤ 0 := by
    have hback := Int.tdiv_nonneg (a := a.sinceEpoch - b.sinceEpoch) (b := 1000000) (by omega)
      (by decide)
    rw [show a.sinceEpoch - b.sinceEpoch = -(b.sinceEpoch - a.sinceEpoch) by omega,
      Int.neg_tdiv] at hback
    unfold Instant.millisBetween
    omega
  rw [elapsedSecs_rat, if_pos hms]

theorem elapsedSecs_le_secondsBetween (h : a.sinceEpoch < b.sinceEpoch) :
    (Instant.elapsedSecs a b : ℚ) ≤ secondsBetween a b := by
  have hdiff : 0 ≤ b.sinceEpoch - a.sinceEpoch := by omega
  have hwhole : Instant.millisBetween a b * 1000000 ≤ b.sinceEpoch - a.sinceEpoch := by
    unfold Instant.millisBetween
    rw [Int.tdiv_eq_ediv_of_nonneg hdiff]
    exact Int.ediv_mul_le _ (by decide)
  have hcast : (Instant.millisBetween a b : ℚ) * 1000000 ≤ (b.sinceEpoch - a.sinceEpoch : ℤ) := by
    exact_mod_cast hwhole
  rw [elapsedSecs_rat]
  split
  · unfold secondsBetween
    have : (0 : ℚ) ≤ (b.sinceEpoch - a.sinceEpoch : ℤ) := by exact_mod_cast hdiff
    positivity
  · unfold secondsBetween
    linarith

end Elapsed

/-! ## Clamping -/

section Clamp

variable {x lo hi : ℚ}

theorem clampBetween_rat : clampBetween x lo hi = if x < lo then lo else if x > hi then hi else x :=
  rfl

theorem le_clampBetween (h : lo ≤ hi) : lo ≤ clampBetween x lo hi := by
  rw [clampBetween_rat]
  split_ifs with hlo hhi <;> linarith

theorem clampBetween_le (h : lo ≤ hi) : clampBetween x lo hi ≤ hi := by
  rw [clampBetween_rat]
  split_ifs with hlo hhi <;> linarith

theorem clampBetween_le_self (h : lo ≤ x) : clampBetween x lo hi ≤ x := by
  rw [clampBetween_rat]
  split_ifs with hlo hhi <;> linarith

end Clamp

/-! ## One refill, one take -/

namespace BucketLevel

variable {c : BucketRates ℚ} {s : BucketLevel ℚ} {n : ℚ} {now : Instant}

@[simp] theorem full_lastRefillAt (c : BucketRates ℚ) (now : Instant) :
    (full c now).lastRefillAt = now :=
  rfl

theorem refill_tokens (s : BucketLevel ℚ) (c : BucketRates ℚ) (now : Instant) :
    (s.refill c now).tokens =
      clampBetween (s.tokens + Instant.elapsedSecs s.lastRefillAt now * c.rate) 0
        c.effectiveCapacity :=
  rfl

theorem refill_mark (s : BucketLevel ℚ) (c : BucketRates ℚ) (now : Instant) :
    (s.refill c now).lastRefillAt.sinceEpoch = max s.lastRefillAt.sinceEpoch now.sinceEpoch := by
  simp only [refill]
  split <;> omega

theorem refill_tokens_nonneg (hcap : 0 ≤ c.effectiveCapacity) : 0 ≤ (s.refill c now).tokens :=
  le_clampBetween hcap

theorem refill_tokens_le_capacity (hcap : 0 ≤ c.effectiveCapacity) :
    (s.refill c now).tokens ≤ c.effectiveCapacity :=
  clampBetween_le hcap

theorem refill_tokens_le (htokens : 0 ≤ s.tokens) (hrate : 0 ≤ c.rate) :
    (s.refill c now).tokens ≤
      s.tokens + c.rate * secondsBetween s.lastRefillAt (s.refill c now).lastRefillAt := by
  have hearned : 0 ≤ Instant.elapsedSecs s.lastRefillAt now * c.rate :=
    mul_nonneg elapsedSecs_nonneg hrate
  have hclamp : clampBetween (s.tokens + Instant.elapsedSecs s.lastRefillAt now * c.rate) 0
      c.effectiveCapacity ≤ s.tokens + Instant.elapsedSecs s.lastRefillAt now * c.rate :=
    clampBetween_le_self (by linarith)
  rw [refill_tokens]
  by_cases hlater : s.lastRefillAt.sinceEpoch < now.sinceEpoch
  · -- the mark moves to `now`, and the milliseconds counted are at most the exact seconds
    have hmark : (s.refill c now).lastRefillAt = now := by simp [refill, hlater]
    have helapsed := elapsedSecs_le_secondsBetween hlater
    rw [hmark]
    nlinarith
  · -- a clock that has not moved forward earns nothing and leaves the mark
    have hmark : (s.refill c now).lastRefillAt = s.lastRefillAt := by simp [refill, hlater]
    rw [hmark, secondsBetween_self, elapsedSecs_of_le (not_lt.mp hlater)] at *
    simpa using hclamp

theorem take_cases (s : BucketLevel ℚ) (c : BucketRates ℚ) (n : ℚ) (now : Instant) :
    (n ≤ (s.refill c now).tokens ∧
      s.take c n now = (.granted, { s.refill c now with tokens := (s.refill c now).tokens - n })) ∨
    ((s.refill c now).tokens < n ∧
      s.take c n now = (.short (n - (s.refill c now).tokens), s.refill c now)) := by
  by_cases h : n ≤ (s.refill c now).tokens
  · exact .inl ⟨h, if_pos h⟩
  · exact .inr ⟨not_le.mp h, if_neg h⟩

theorem take_mark (s : BucketLevel ℚ) (c : BucketRates ℚ) (n : ℚ) (now : Instant) :
    (s.take c n now).2.lastRefillAt = (s.refill c now).lastRefillAt := by
  rcases take_cases s c n now with ⟨-, h⟩ | ⟨-, h⟩ <;> rw [h]

theorem take_granted (h : (s.take c n now).1 = .granted) :
    (s.take c n now).2.tokens = (s.refill c now).tokens - n := by
  rcases take_cases s c n now with ⟨-, heq⟩ | ⟨-, heq⟩ <;> rw [heq] at h ⊢
  cases h

end BucketLevel

/-! ## The level stays within bounds -/

/-- One use of a bucket: a refill (reading the level refills it too), or a demand. -/
inductive BucketUse (α : Type) where
  | refill (now : Instant)
  | take (n : α) (now : Instant)

/-- The demand a use makes, if it makes one. -/
def BucketUse.demand? {α : Type} : BucketUse α → Option α
  | .refill _ => none
  | .take n _ => some n

namespace BucketLevel

variable {α : Type} [TokenCount α]

/-- The bucket after one use. -/
def use (c : BucketRates α) (s : BucketLevel α) : BucketUse α → BucketLevel α
  | .refill now => s.refill c now
  | .take n now => (s.take c n now).2

/-- The bucket after uses one after another. -/
def useAll (c : BucketRates α) (s : BucketLevel α) (uses : List (BucketUse α)) : BucketLevel α :=
  uses.foldl (use c) s

end BucketLevel

/-- The level lies between zero and the burst size. -/
def BucketLevel.Within (c : BucketRates ℚ) (s : BucketLevel ℚ) : Prop :=
  0 ≤ s.tokens ∧ s.tokens ≤ c.effectiveCapacity

theorem BucketLevel.within_full {c : BucketRates ℚ} (hcap : 0 < c.effectiveCapacity)
    (now : Instant) : (BucketLevel.full c now).Within c :=
  ⟨hcap.le, le_rfl⟩

theorem BucketLevel.Within.use {c : BucketRates ℚ} {s : BucketLevel ℚ} (hs : s.Within c)
    {u : BucketUse ℚ} (hu : ∀ n ∈ u.demand?, 0 ≤ n) : (s.use c u).Within c := by
  have hcap : 0 ≤ c.effectiveCapacity := hs.1.trans hs.2
  cases u with
  | refill now => exact ⟨refill_tokens_nonneg hcap, refill_tokens_le_capacity hcap⟩
  | take n now =>
    have hn : 0 ≤ n := hu n rfl
    have hlo : 0 ≤ (s.refill c now).tokens := refill_tokens_nonneg hcap
    have hhi : (s.refill c now).tokens ≤ c.effectiveCapacity := refill_tokens_le_capacity hcap
    rcases take_cases s c n now with ⟨hle, h⟩ | ⟨-, h⟩
    · simp only [BucketLevel.use, h]
      exact ⟨by linarith, by linarith⟩
    · simp only [BucketLevel.use, h]
      exact ⟨hlo, hhi⟩

theorem BucketLevel.Within.useAll {c : BucketRates ℚ} {s : BucketLevel ℚ} (hs : s.Within c)
    {uses : List (BucketUse ℚ)} (hdemands : ∀ u ∈ uses, ∀ n ∈ u.demand?, 0 ≤ n) :
    (s.useAll c uses).Within c := by
  induction uses generalizing s with
  | nil => exact hs
  | cons u rest ih =>
    exact ih (hs.use (hdemands u List.mem_cons_self))
      fun u hu => hdemands u (List.mem_cons_of_mem _ hu)

/-- Started full, a bucket whose demands are all at least zero keeps its level between zero and
its burst size, through any refills, readings and demands at any instants; and from any level it
reaches, a granted demand lowers the refilled level by exactly the demand. -/
theorem level_within_capacity (c : BucketRates ℚ) (hcap : 0 < c.effectiveCapacity)
    (start : Instant) (uses : List (BucketUse ℚ))
    (hdemands : ∀ u ∈ uses, ∀ n ∈ u.demand?, 0 ≤ n) :
    ((BucketLevel.full c start).useAll c uses).Within c ∧
      ∀ (n : ℚ) (now : Instant),
        (((BucketLevel.full c start).useAll c uses).take c n now).1 = .granted →
          (((BucketLevel.full c start).useAll c uses).take c n now).2.tokens =
            (((BucketLevel.full c start).useAll c uses).refill c now).tokens - n :=
  ⟨(BucketLevel.within_full hcap start).useAll hdemands, fun _ _ => BucketLevel.take_granted⟩

theorem level_within_capacity_after_grant_and_refill :
    (0 : ℚ) < (⟨1, some 2⟩ : BucketRates ℚ).effectiveCapacity ∧
      ((BucketLevel.full (⟨1, some 2⟩ : BucketRates ℚ) ⟨0⟩).useAll ⟨1, some 2⟩
        [.take 1 ⟨0⟩, .refill ⟨500000000⟩]).Within ⟨1, some 2⟩ ∧
      ∀ (n : ℚ) (now : Instant),
        (((BucketLevel.full (⟨1, some 2⟩ : BucketRates ℚ) ⟨0⟩).useAll ⟨1, some 2⟩
          [.take 1 ⟨0⟩, .refill ⟨500000000⟩]).take ⟨1, some 2⟩ n now).1 = .granted →
        (((BucketLevel.full (⟨1, some 2⟩ : BucketRates ℚ) ⟨0⟩).useAll ⟨1, some 2⟩
          [.take 1 ⟨0⟩, .refill ⟨500000000⟩]).take ⟨1, some 2⟩ n now).2.tokens =
          (((BucketLevel.full (⟨1, some 2⟩ : BucketRates ℚ) ⟨0⟩).useAll ⟨1, some 2⟩
            [.take 1 ⟨0⟩, .refill ⟨500000000⟩]).refill ⟨1, some 2⟩ now).tokens - n := by
  have hcap : (0 : ℚ) < (⟨1, some 2⟩ : BucketRates ℚ).effectiveCapacity := by
    norm_num [BucketRates.effectiveCapacity]
  exact ⟨hcap, level_within_capacity _ hcap _ _ (by simp [BucketUse.demand?])⟩

/-- A demand below zero breaks the bound: with a rate of one token a second and a burst of two,
a demand of minus one token, which is not more than the burst size, is granted by the full
bucket and leaves it holding three. -/
theorem negative_demand_overfills_bucket :
    (-1 : ℚ) ≤ (⟨1, some 2⟩ : BucketRates ℚ).effectiveCapacity ∧
      ((BucketLevel.full (⟨1, some 2⟩ : BucketRates ℚ) ⟨0⟩).take ⟨1, some 2⟩ (-1) ⟨0⟩).1 =
        .granted ∧
      ((BucketLevel.full (⟨1, some 2⟩ : BucketRates ℚ) ⟨0⟩).useAll ⟨1, some 2⟩
        [.take (-1) ⟨0⟩]).tokens = 3 := by
  norm_num [BucketLevel.take, BucketLevel.refill, BucketLevel.full, BucketLevel.useAll,
    BucketLevel.use, BucketRates.effectiveCapacity, elapsedSecs_rat, Instant.millisBetween,
    clampBetween_rat]

/-! ## What a bucket grants -/

/-- The tokens an attempt to take `n` hands out. -/
def Grant.amount {α : Type} [Zero α] (n : α) : Grant α → α
  | .granted => n
  | .short _ => 0

namespace BucketLevel

variable {α : Type} [TokenCount α]

/-- Demands made one after another, each at its instant: the tokens granted in all and the
bucket after them. -/
def takeAll (c : BucketRates α) : BucketLevel α → List (α × Instant) → α × BucketLevel α
  | s, [] => (0, s)
  | s, (n, now) :: rest =>
    let (g, s) := s.take c n now
    let (total, s) := takeAll c s rest
    (g.amount n + total, s)

end BucketLevel

/-- The latest of `start` and the instants of some demands. -/
def latestOf {α : Type} (start : Instant) (demands : List (α × Instant)) : Instant :=
  ⟨demands.foldl (fun m d => max m d.2.sinceEpoch) start.sinceEpoch⟩

/-- The tokens granted since `start` and the tokens held together stay within the burst size
plus what the rate has earned from `start` to the refill mark. -/
def BucketLevel.GrantBound (c : BucketRates ℚ) (start : Instant) (granted : ℚ)
    (s : BucketLevel ℚ) : Prop :=
  0 ≤ s.tokens ∧
    granted + s.tokens ≤ c.effectiveCapacity + c.rate * secondsBetween start s.lastRefillAt

namespace BucketLevel

variable {c : BucketRates ℚ} {start : Instant} {granted : ℚ} {s : BucketLevel ℚ}

theorem grantBound_full (hcap : 0 ≤ c.effectiveCapacity) : (full c start).GrantBound c start 0 :=
  ⟨hcap, by simp [full, secondsBetween_self]⟩

theorem GrantBound.take (hrate : 0 ≤ c.rate) (hcap : 0 ≤ c.effectiveCapacity)
    (hb : s.GrantBound c start granted) (n : ℚ) (now : Instant) :
    (s.take c n now).2.GrantBound c start (granted + (s.take c n now).1.amount n) := by
  obtain ⟨hnonneg, hbound⟩ := hb
  have hrefill : (s.refill c now).tokens ≤
      s.tokens + c.rate * secondsBetween s.lastRefillAt (s.refill c now).lastRefillAt :=
    refill_tokens_le hnonneg hrate
  have hmoved := secondsBetween_add start s.lastRefillAt (s.refill c now).lastRefillAt
  have hfloor : 0 ≤ (s.refill c now).tokens := refill_tokens_nonneg hcap
  have hearned : granted + (s.refill c now).tokens ≤
      c.effectiveCapacity + c.rate * secondsBetween start (s.refill c now).lastRefillAt := by
    rw [← hmoved]
    nlinarith
  rcases take_cases s c n now with ⟨hle, h⟩ | ⟨-, h⟩
  · rw [h]
    exact ⟨by simpa using hle, by simp only [Grant.amount]; linarith⟩
  · rw [h]
    exact ⟨hfloor, by simpa [Grant.amount] using hearned⟩

theorem GrantBound.takeAll (hrate : 0 ≤ c.rate) (hcap : 0 ≤ c.effectiveCapacity)
    (demands : List (ℚ × Instant)) (hb : s.GrantBound c start granted) :
    (s.takeAll c demands).2.GrantBound c start (granted + (s.takeAll c demands).1) := by
  induction demands generalizing s granted with
  | nil => simpa [BucketLevel.takeAll] using hb
  | cons d rest ih =>
    obtain ⟨n, now⟩ := d
    have hnext := ih (hb.take hrate hcap n now)
    simp only [BucketLevel.takeAll]
    rwa [← add_assoc]

theorem takeAll_mark (c : BucketRates ℚ) (s : BucketLevel ℚ) (demands : List (ℚ × Instant)) :
    (s.takeAll c demands).2.lastRefillAt = latestOf s.lastRefillAt demands := by
  induction demands generalizing s with
  | nil => rfl
  | cons d rest ih =>
    obtain ⟨n, now⟩ := d
    simp only [BucketLevel.takeAll, ih, latestOf, List.foldl_cons, take_mark, refill_mark]

end BucketLevel

/-- Started full, a bucket grants no more in all than its burst size plus what its rate earns from
the start to the latest instant seen, whatever the demands and in whatever order their instants
come. -/
theorem granted_within_burst_and_rate (c : BucketRates ℚ) (hrate : 0 < c.rate)
    (hcap : 0 < c.effectiveCapacity) (start : Instant) (demands : List (ℚ × Instant)) :
    ((BucketLevel.full c start).takeAll c demands).1 ≤
      c.effectiveCapacity + c.rate * secondsBetween start (latestOf start demands) := by
  have hstart : (BucketLevel.full c start).GrantBound c start 0 :=
    BucketLevel.grantBound_full hcap.le
  obtain ⟨hnonneg, hbound⟩ := hstart.takeAll hrate.le hcap.le demands
  rw [BucketLevel.takeAll_mark, BucketLevel.full_lastRefillAt, zero_add] at hbound
  linarith

/-- Two tokens at the start and one a second later from a bucket that earns one a second and
holds two. -/
theorem granted_within_burst_and_rate_over_a_second :
    0 < (⟨1, some 2⟩ : BucketRates ℚ).rate ∧ 0 < (⟨1, some 2⟩ : BucketRates ℚ).effectiveCapacity ∧
      ((BucketLevel.full ⟨1, some 2⟩ ⟨0⟩).takeAll ⟨1, some 2⟩ [(2, ⟨0⟩), (1, ⟨1000000000⟩)]).1 ≤
        (⟨1, some 2⟩ : BucketRates ℚ).effectiveCapacity + (⟨1, some 2⟩ : BucketRates ℚ).rate *
          secondsBetween ⟨0⟩ (latestOf ⟨0⟩ [((2 : ℚ), ⟨0⟩), (1, ⟨1000000000⟩)]) :=
  ⟨by decide, by decide, granted_within_burst_and_rate _ (by decide) (by decide) _ _⟩

end ResilientAgent
