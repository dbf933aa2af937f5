import ResilientAgent.Proofs.Numeral.Binary64
import ResilientAgent.Time.Instant

/-!
# Elapsed seconds in floating point

The breaker measures the time since its last failure as whole milliseconds, writes them as float
seconds (`Instant.elapsedSecs`, the milliseconds as a float divided by `1000.0`), and reads the
seconds back as a duration (`Duration.ofSecsFloat?`, to the nearest nanosecond). This module
says what comes back.

Below `2^23` seconds, about 97 days, the milliseconds come back exactly
(`Instant.ofSecsFloat?_elapsedSecs_of_lt`): there the quotient's last place is at most `2^-30`
seconds, so its rounding error, half of that, is less than half a nanosecond, and the reading
rounds to the exact nanoseconds. From `2^23` seconds on the last place grows to `2^-29` seconds
and the reading may land a nanosecond off, but it never comes back below `2^23` seconds
(`Instant.ofSecsFloat?_elapsedSecs_of_ge`). Between representable instants fewer than `2^54`
milliseconds pass, so every float here is normal and the reading never fails
(`Instant.millisBetween_lt_of_representable`).
-/

namespace ResilientAgent

namespace Binary64

/-- A positive normal number below one reads back as its nanoseconds, rounded to the nearest. -/
theorem Represents.ofSecsFloat? {y : Float} {m : Nat} {q : Int} (h : Represents y m q)
    (hq : q < 0) :
    Duration.ofSecsFloat? y = .ok ⟨Numeral.roundHalfEven (m * 1000000000) (2 ^ q.natAbs)⟩ := by
  have hm := h.normal.mantissa_ge
  have hm' := h.normal.mantissa_lt
  have hsmall : m / 2 ^ q.natAbs < 2 ^ 64 :=
    Nat.lt_of_le_of_lt (Nat.div_le_self _ _) (by omega)
  unfold Duration.ofSecsFloat?
  rw [if_neg h.not_lt_zero, h.decode]
  simp only [beq_iff_eq, Nat.pow_eq, Duration.nanosPerSecond]
  rw [if_neg (by omega), if_neg (by omega), if_neg (by omega)]

theorem near_of_mul_right {A Y P : Nat} (hP : 0 < P)
    (hbelow : 2 * (A * P) ≤ 2 * (1000 * (Y * P)) + 1000 * P)
    (habove : 2 * (1000 * (Y * P)) ≤ 2 * (A * P) + 1000 * P) :
    2 * A ≤ 2000 * Y + 1000 ∧ 2000 * Y ≤ 2 * A + 1000 := by
  constructor
  · refine Nat.le_of_mul_le_mul_right ?_ hP
    calc 2 * A * P = 2 * (A * P) := by ring
      _ ≤ 2 * (1000 * (Y * P)) + 1000 * P := hbelow
      _ = (2000 * Y + 1000) * P := by ring
  · refine Nat.le_of_mul_le_mul_right ?_ hP
    calc 2000 * Y * P = 2 * (1000 * (Y * P)) := by ring
      _ ≤ 2 * (A * P) + 1000 * P := habove
      _ = (2 * A + 1000) * P := by ring

theorem div_thousand_of_lt {E : Nat} (h1 : 1 ≤ E) (h2 : E < 2 ^ 53) :
    ∃ Y s : Nat, s ≤ 2 ∧ Represents (Numeral.floatOfInt E / 1000.0) Y (E.log2 - 62 + s) ∧
      2 * (E * 2 ^ (62 - E.log2 - s)) ≤ 2000 * Y + 1000 ∧
      2000 * Y ≤ 2 * (E * 2 ^ (62 - E.log2 - s)) + 1000 := by
  have hk : E.log2 < 53 := (Nat.log2_lt (by omega)).2 h2
  obtain ⟨Y, s, hs, hy, hbelow, habove⟩ :=
    (represents_floatOfInt_of_lt h1 h2).div_thousand (by omega) (by omega)
  have hsplit : 1024 * (E * 2 ^ (52 - E.log2)) = E * 2 ^ (62 - E.log2 - s) * 2 ^ s := by
    rw [Nat.mul_assoc, ← pow_add, show 62 - E.log2 - s + s = 10 + (52 - E.log2) by omega, pow_add]
    ring
  rw [hsplit] at hbelow habove
  refine ⟨Y, s, hs, ?_, near_of_mul_right (Nat.two_pow_pos s) hbelow habove⟩
  convert hy using 2
  ring

theorem ofSecsFloat?_millis_of_lt {E : Nat} (h1 : 1 ≤ E) (h2 : E < 8388608000) :
    Duration.ofSecsFloat? (Numeral.floatOfInt E / 1000.0) = .ok (Duration.ofMillis E) := by
  have hk : E.log2 < 33 := (Nat.log2_lt (by omega)).2 (by omega)
  obtain ⟨Y, s, hs, hy, hbelow, habove⟩ := div_thousand_of_lt h1 (by omega)
  have hY := hy.normal.mantissa_ge
  rw [hy.ofSecsFloat? (by omega),
    show ((E.log2 : Int) - 62 + s).natAbs = 62 - E.log2 - s by omega]
  generalize hD : 2 ^ (62 - E.log2 - s) = D at hbelow habove
  -- below `2^23` seconds the last place is at most `2^-30` seconds, finer than a nanosecond
  have hfine : 2 ^ 30 ≤ D := by
    by_contra hcoarse
    have hD' : D ≤ 2 ^ 29 := by
      rw [← hD] at hcoarse ⊢
      exact Nat.pow_le_pow_right (by omega) (by
        by_contra h
        exact hcoarse (Nat.pow_le_pow_right (by omega) (by omega)))
    have : E * D ≤ 8388607999 * 2 ^ 29 := Nat.mul_le_mul (by omega) hD'
    omega
  simp only [Duration.ofMillis, Except.ok.injEq, Duration.mk.injEq]
  apply roundHalfEven_eq_of_near (by omega)
  · rw [show D * (E * 1000000) = 1000000 * (E * D) by ring]
    omega
  · rw [show D * (E * 1000000) = 1000000 * (E * D) by ring]
    omega

theorem le_roundHalfEven_of_le {Y D : Nat} (hD : 0 < D) (hY : 8388608 * D ≤ Y) :
    8388608 * 1000000000 ≤ Numeral.roundHalfEven (Y * 1000000000) D := by
  refine Nat.le_trans ?_ (div_le_roundHalfEven _ _)
  rw [Nat.le_div_iff_mul_le hD]
  calc 8388608 * 1000000000 * D = 8388608 * D * 1000000000 := by ring
    _ ≤ Y * 1000000000 := Nat.mul_le_mul_right _ hY

theorem ofSecsFloat?_millis_of_ge {E : Nat} (h1 : 8388608000 ≤ E) (h2 : E < 2 ^ 54) :
    ∃ d, Duration.ofSecsFloat? (Numeral.floatOfInt E / 1000.0) = .ok d ∧
      8388608 * 1000000000 ≤ d.toNanos := by
  by_cases h53 : E < 2 ^ 53
  · obtain ⟨Y, s, hs, hy, hbelow, -⟩ := div_thousand_of_lt (by omega) h53
    have hk : E.log2 < 53 := (Nat.log2_lt (by omega)).2 h53
    refine ⟨_, hy.ofSecsFloat? (by omega), ?_⟩
    rw [show ((E.log2 : Int) - 62 + s).natAbs = 62 - E.log2 - s by omega]
    generalize hD : 2 ^ (62 - E.log2 - s) = D at hbelow
    have hpos : 0 < D := hD ▸ Nat.two_pow_pos _
    have : 8388608000 * D ≤ E * D := Nat.mul_le_mul_right _ h1
    exact le_roundHalfEven_of_le hpos (by omega)
  · -- from `2^53` milliseconds the quotient's last place is at least `2^-9` seconds
    obtain ⟨M, e, he, he', hx⟩ := represents_floatOfInt_of_lt_two_pow_54 (by omega) h2
    obtain ⟨Y, s, hs, hy, -, -⟩ := hx.div_thousand (by omega) (by omega)
    refine ⟨_, hy.ofSecsFloat? (by omega), ?_⟩
    have hY := hy.normal.mantissa_ge
    have hD : 2 ^ (e - 10 + s : Int).natAbs ≤ 2 ^ 9 := Nat.pow_le_pow_right (by omega) (by omega)
    exact le_roundHalfEven_of_le (Nat.two_pow_pos _) (by omega)

end Binary64

namespace Instant

open Binary64

theorem ofSecsFloat?_zero : Duration.ofSecsFloat? 0.0 = .ok Duration.zero := by decide

/-- Below `2^23` seconds the float seconds elapsed read back as the whole milliseconds. -/
theorem ofSecsFloat?_elapsedSecs_of_lt {a b : Instant} (h : millisBetween a b < 8388608000) :
    Duration.ofSecsFloat? (elapsedSecs a b : Float) =
      .ok (Duration.ofMillis (millisBetween a b).toNat) := by
  unfold elapsedSecs
  dsimp only
  split
  · rename_i hms
    rw [Int.toNat_eq_zero.2 hms]
    exact ofSecsFloat?_zero
  · rename_i hms
    have hcast : millisBetween a b = ((millisBetween a b).toNat : Int) := by omega
    change Duration.ofSecsFloat? (Numeral.floatOfInt (millisBetween a b) / 1000.0) = _
    rw [hcast, ofSecsFloat?_millis_of_lt (by omega) (by omega), Int.toNat_natCast]

/-- From `2^23` seconds on, below `2^54` milliseconds, the float seconds elapsed read back as
`2^23` seconds or more. -/
theorem ofSecsFloat?_elapsedSecs_of_ge {a b : Instant} (h1 : 8388608000 ≤ millisBetween a b)
    (h2 : millisBetween a b < 2 ^ 54) :
    ∃ d, Duration.ofSecsFloat? (elapsedSecs a b : Float) = .ok d ∧
      8388608 * 1000000000 ≤ d.toNanos := by
  unfold elapsedSecs
  dsimp only
  rw [if_neg (by omega)]
  have hcast : millisBetween a b = ((millisBetween a b).toNat : Int) := by omega
  change ∃ d, Duration.ofSecsFloat? (Numeral.floatOfInt (millisBetween a b) / 1000.0) = _ ∧ _
  rw [hcast]
  exact ofSecsFloat?_millis_of_ge (by omega) (by omega)

/-- Between representable instants fewer than `2^54` milliseconds pass. -/
theorem millisBetween_lt_of_representable {a b : Instant}
    (ha : minUtc.sinceEpoch ≤ a.sinceEpoch) (hb : b.sinceEpoch < maxUtc.sinceEpoch) :
    millisBetween a b < 2 ^ 54 := by
  have hspan : maxUtc.sinceEpoch - minUtc.sinceEpoch < 2 ^ 54 * 1000000 := by decide
  unfold millisBetween
  by_cases hle : a.sinceEpoch ≤ b.sinceEpoch
  · rw [Int.tdiv_eq_ediv_of_nonneg (by omega)]
    omega
  · -- behind `a` the milliseconds round toward zero, to none or fewer
    have := Int.tdiv_nonneg (a := a.sinceEpoch - b.sinceEpoch) (b := 1000000) (by omega)
      (by decide)
    rw [show a.sinceEpoch - b.sinceEpoch = -(b.sinceEpoch - a.sinceEpoch) by omega,
      Int.neg_tdiv] at this
    omega

end Instant

end ResilientAgent
