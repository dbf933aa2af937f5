import ResilientAgent.Proofs.Bucket.Level

/-!
# Refills at the millisecond

A refill counts the time since the refill mark in whole milliseconds and then moves the mark to
the exact instant it was asked at. Two refills therefore earn what one refill over the whole
span earns exactly when the milliseconds of the two gaps add up to those of the whole span
(`refill_refill_of_millis_add`), which they always do when the first refill comes a whole number
of milliseconds after the mark (`millisBetween_add_of_whole`). Refills along a run of such
instants then earn what the last one alone would (`refill_along_grid`).

A refill that comes less than a millisecond after the mark is different: it earns nothing and
still moves the mark, so the fraction of a millisecond it saw is lost to every later refill.
Clamping to the burst size is no obstacle for a level within bounds: a bucket that fills up
early stays full, and one that runs dry early stays dry, whichever way the rate points.
-/

namespace ResilientAgent

/-! ## Clamping twice -/

theorem clampBetween_add_clampBetween {x a b hi : ℚ} (hx : 0 ≤ x) (hxhi : x ≤ hi)
    (hab : (0 ≤ a ∧ 0 ≤ b) ∨ (a ≤ 0 ∧ b ≤ 0)) :
    clampBetween (clampBetween (x + a) 0 hi + b) 0 hi = clampBetween (x + a + b) 0 hi := by
  simp only [clampBetween_rat]
  rcases hab with ⟨ha, hb⟩ | ⟨ha, hb⟩ <;> split_ifs <;> linarith

/-! ## Whole milliseconds -/

section Millis

variable {a b c : Instant}

theorem millisBetween_of_le (h : a.sinceEpoch ≤ b.sinceEpoch) :
    Instant.millisBetween a b = (b.sinceEpoch - a.sinceEpoch) / 1000000 := by
  unfold Instant.millisBetween
  exact Int.tdiv_eq_ediv_of_nonneg (by omega)

/-- Gaps whose first part is a whole number of milliseconds count their milliseconds in full. -/
theorem millisBetween_add_of_whole (hab : a.sinceEpoch ≤ b.sinceEpoch)
    (hbc : b.sinceEpoch ≤ c.sinceEpoch) (hwhole : (b.sinceEpoch - a.sinceEpoch) % 1000000 = 0) :
    Instant.millisBetween a b + Instant.millisBetween b c = Instant.millisBetween a c := by
  rw [millisBetween_of_le hab, millisBetween_of_le hbc, millisBetween_of_le (hab.trans hbc)]
  omega

theorem elapsedSecs_eq_millis (h : a.sinceEpoch ≤ b.sinceEpoch) :
    (Instant.elapsedSecs a b : ℚ) = (Instant.millisBetween a b : ℚ) / 1000 := by
  have hms : 0 ≤ Instant.millisBetween a b := by
    rw [millisBetween_of_le h]
    omega
  rw [elapsedSecs_rat]
  split
  · rename_i hle
    have hzero : Instant.millisBetween a b = 0 := le_antisymm hle hms
    simp [hzero]
  · rfl

theorem elapsedSecs_add (hab : a.sinceEpoch ≤ b.sinceEpoch) (hbc : b.sinceEpoch ≤ c.sinceEpoch)
    (hms : Instant.millisBetween a b + Instant.millisBetween b c = Instant.millisBetween a c) :
    (Instant.elapsedSecs a b : ℚ) + Instant.elapsedSecs b c = Instant.elapsedSecs a c := by
  rw [elapsedSecs_eq_millis hab, elapsedSecs_eq_millis hbc, elapsedSecs_eq_millis (hab.trans hbc),
    ← hms]
  push_cast
  ring

end Millis

/-! ## Two refills and one -/

namespace BucketLevel

variable {c : BucketRates ℚ} {s : BucketLevel ℚ} {t₁ t₂ : Instant}

theorem refill_lastRefillAt_of_le (h : s.lastRefillAt.sinceEpoch ≤ t₁.sinceEpoch) :
    (s.refill c t₁).lastRefillAt = t₁ := by
  have hmark := refill_mark s c t₁
  rw [max_eq_right h] at hmark
  cases hr : (s.refill c t₁).lastRefillAt
  cases t₁
  simp_all

theorem ext_of {s s' : BucketLevel ℚ} (htokens : s.tokens = s'.tokens)
    (hmark : s.lastRefillAt = s'.lastRefillAt) : s = s' := by
  cases s
  cases s'
  simp_all

/-- A level within bounds refilled at `t₁` and then at `t₂` is refilled at `t₂` alone, when the
whole milliseconds from the mark to `t₁` and from `t₁` to `t₂` add up to those from the mark to
`t₂`. -/
theorem refill_refill_of_millis_add (hs : s.Within c)
    (h₁ : s.lastRefillAt.sinceEpoch ≤ t₁.sinceEpoch) (h₂ : t₁.sinceEpoch ≤ t₂.sinceEpoch)
    (hms : Instant.millisBetween s.lastRefillAt t₁ + Instant.millisBetween t₁ t₂ =
      Instant.millisBetween s.lastRefillAt t₂) :
    (s.refill c t₁).refill c t₂ = s.refill c t₂ := by
  have hmark₁ : (s.refill c t₁).lastRefillAt = t₁ := refill_lastRefillAt_of_le h₁
  have hmark₂ : ((s.refill c t₁).refill c t₂).lastRefillAt = t₂ :=
    refill_lastRefillAt_of_le (by rw [hmark₁]; exact h₂)
  have hsecs := elapsedSecs_add h₁ h₂ hms
  have he₁ : (0 : ℚ) ≤ Instant.elapsedSecs s.lastRefillAt t₁ := elapsedSecs_nonneg
  have he₂ : (0 : ℚ) ≤ Instant.elapsedSecs t₁ t₂ := elapsedSecs_nonneg
  have hsame : (0 ≤ Instant.elapsedSecs s.lastRefillAt t₁ * c.rate ∧
        0 ≤ Instant.elapsedSecs t₁ t₂ * c.rate) ∨
      (Instant.elapsedSecs s.lastRefillAt t₁ * c.rate ≤ 0 ∧
        Instant.elapsedSecs t₁ t₂ * c.rate ≤ 0) := by
    rcases le_total 0 c.rate with hr | hr
    · exact .inl ⟨mul_nonneg he₁ hr, mul_nonneg he₂ hr⟩
    · exact .inr ⟨mul_nonpos_of_nonneg_of_nonpos he₁ hr, mul_nonpos_of_nonneg_of_nonpos he₂ hr⟩
  refine ext_of ?_ (hmark₂.trans (refill_lastRefillAt_of_le (h₁.trans h₂)).symm)
  rw [refill_tokens, hmark₁, refill_tokens, refill_tokens,
    clampBetween_add_clampBetween hs.1 hs.2 hsame, add_assoc, ← add_mul, hsecs]

theorem Within.refill (hs : s.Within c) (now : Instant) : (s.refill c now).Within c :=
  ⟨refill_tokens_nonneg (hs.1.trans hs.2), refill_tokens_le_capacity (hs.1.trans hs.2)⟩

/-- Refills at instants in order, each a whole number of milliseconds after the mark, and then at
a later instant `t`, leave the level a single refill at `t` leaves. -/
theorem refill_along_grid (hs : s.Within c) {ts : List Instant} {t : Instant}
    (hsorted : ts.Pairwise fun u v => u.sinceEpoch ≤ v.sinceEpoch)
    (hafter : ∀ u ∈ ts, s.lastRefillAt.sinceEpoch ≤ u.sinceEpoch)
    (hbefore : ∀ u ∈ ts, u.sinceEpoch ≤ t.sinceEpoch)
    (hgrid : ∀ u ∈ ts, (u.sinceEpoch - s.lastRefillAt.sinceEpoch) % 1000000 = 0) :
    (ts.foldl (fun s u => s.refill c u) s).refill c t = s.refill c t := by
  -- induction on the refills, the first one becoming the mark of the rest
  induction ts generalizing s with
  | nil => rfl
  | cons u rest ih =>
    obtain ⟨hu, hrest⟩ := List.pairwise_cons.1 hsorted
    have hmark : (s.refill c u).lastRefillAt = u :=
      refill_lastRefillAt_of_le (hafter u List.mem_cons_self)
    have hnext := ih (hs.refill u) hrest
      (fun v hv => by rw [hmark]; exact hu v hv)
      (fun v hv => hbefore v (List.mem_cons_of_mem _ hv))
      (fun v hv => by
        have hv' := hgrid v (List.mem_cons_of_mem _ hv)
        have hu' := hgrid u List.mem_cons_self
        rw [hmark]
        omega)
    rw [List.foldl_cons, hnext]
    exact refill_refill_of_millis_add hs (hafter u List.mem_cons_self) (hbefore u List.mem_cons_self)
      (millisBetween_add_of_whole (hafter u List.mem_cons_self) (hbefore u List.mem_cons_self)
        (hgrid u List.mem_cons_self))

end BucketLevel

/-- Counted in exact rationals, refills of a level within bounds do not depend on the path taken:
two refills at `t₁` and `t₂` leave the tokens and the mark that one refill at `t₂` leaves whenever
the whole milliseconds of the two gaps add up to those of the whole span, and any refills in
between at instants a whole number of milliseconds after the mark change nothing of what a later
refill finds. -/
theorem refills_path_independent {c : BucketRates ℚ} {s : BucketLevel ℚ} (hs : s.Within c) :
    (∀ t₁ t₂ : Instant, s.lastRefillAt.sinceEpoch ≤ t₁.sinceEpoch →
      t₁.sinceEpoch ≤ t₂.sinceEpoch →
      Instant.millisBetween s.lastRefillAt t₁ + Instant.millisBetween t₁ t₂ =
        Instant.millisBetween s.lastRefillAt t₂ →
      (s.refill c t₁).refill c t₂ = s.refill c t₂) ∧
    (∀ (ts : List Instant) (t : Instant), (ts.Pairwise fun u v => u.sinceEpoch ≤ v.sinceEpoch) →
      (∀ u ∈ ts, s.lastRefillAt.sinceEpoch ≤ u.sinceEpoch ∧ u.sinceEpoch ≤ t.sinceEpoch ∧
        (u.sinceEpoch - s.lastRefillAt.sinceEpoch) % 1000000 = 0) →
      (ts.foldl (fun s u => s.refill c u) s).refill c t = s.refill c t) :=
  ⟨fun _ _ h₁ h₂ hms => BucketLevel.refill_refill_of_millis_add hs h₁ h₂ hms,
    fun _ _ hsorted hts => BucketLevel.refill_along_grid hs hsorted (fun u hu => (hts u hu).1)
      (fun u hu => (hts u hu).2.1) (fun u hu => (hts u hu).2.2)⟩

/-- An empty bucket that earns a thousand tokens a second, refilled a millisecond and a half after
its mark, holds what one refill there gives, with or without a refill one millisecond in. -/
theorem refills_path_independent_on_the_grid :
    (⟨0, ⟨0⟩⟩ : BucketLevel ℚ).Within ⟨1000, some 10⟩ ∧
      ((⟨0, ⟨0⟩⟩ : BucketLevel ℚ).refill ⟨1000, some 10⟩ ⟨1000000⟩).refill ⟨1000, some 10⟩
          ⟨1500000⟩ =
        (⟨0, ⟨0⟩⟩ : BucketLevel ℚ).refill ⟨1000, some 10⟩ ⟨1500000⟩ := by
  have hs : (⟨0, ⟨0⟩⟩ : BucketLevel ℚ).Within ⟨1000, some 10⟩ := by
    norm_num [BucketLevel.Within, BucketRates.effectiveCapacity]
  exact ⟨hs, (refills_path_independent hs).1 _ _ (by decide) (by decide) (by decide)⟩

/-- Refills are not free of the path in general. A refill half a millisecond after the mark earns
nothing and moves the mark, so an empty bucket earning a thousand tokens a second holds nothing a
millisecond after its mark, where one refill there gives it a token. And a level below zero is
lifted to zero by the first refill: at one token a second, a bucket holding minus five refilled
after one second and after two holds one token, where one refill after two seconds leaves none. -/
theorem refill_paths_part :
    ((⟨0, ⟨0⟩⟩ : BucketLevel ℚ).refill ⟨1000, some 10⟩ ⟨500000⟩).refill ⟨1000, some 10⟩
        ⟨1000000⟩ = ⟨0, ⟨1000000⟩⟩ ∧
      (⟨0, ⟨0⟩⟩ : BucketLevel ℚ).refill ⟨1000, some 10⟩ ⟨1000000⟩ = ⟨1, ⟨1000000⟩⟩ ∧
      ((⟨-5, ⟨0⟩⟩ : BucketLevel ℚ).refill ⟨1, some 10⟩ ⟨1000000000⟩).refill ⟨1, some 10⟩
          ⟨2000000000⟩ = ⟨1, ⟨2000000000⟩⟩ ∧
      (⟨-5, ⟨0⟩⟩ : BucketLevel ℚ).refill ⟨1, some 10⟩ ⟨2000000000⟩ = ⟨0, ⟨2000000000⟩⟩ := by
  have h₀ : Int.tdiv 500000 1000000 = 0 := by decide
  have h₁ : Int.tdiv 1000000 1000000 = 1 := by decide
  have h₂ : Int.tdiv 1000000000 1000000 = 1000 := by decide
  have h₃ : Int.tdiv 2000000000 1000000 = 2000 := by decide
  refine ⟨?_, ?_, ?_, ?_⟩ <;>
    norm_num [BucketLevel.refill, BucketRates.effectiveCapacity, elapsedSecs_rat,
      Instant.millisBetween, clampBetween_rat, h₀, h₁, h₂, h₃]

end ResilientAgent
