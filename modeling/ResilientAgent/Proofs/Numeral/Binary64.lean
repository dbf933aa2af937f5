import Mathlib
import ResilientAgent.Numeral.Text

/-!
# Positive normal binary64 numbers

A float is its bits, and every operation on floats unpacks its operands, works on their exact
mantissas and exponents, rounds, and packs the result again. This module follows that path for
the operations the breaker's clock performs on positive normal numbers: turning a positive whole
number of milliseconds into a float (`Numeral.floatOfInt`) and dividing it by `1000.0`.

`Represents x m q` says that the float `x` is the normal number `m · 2^q`. Dividing such a float
by `1000.0` gives another one within half of its last place of the exact quotient
(`Represents.div_thousand`). The proof goes through `divCore`, whose quotient of the two
mantissas is `1024 / 1000` of the dividend's, and through the two shifts of
`roundWithAccuracy`: the first brings the quotient to 53 bits and rounds it to the nearest, the
second only drops the bit that rounding up may have carried into
(`pack_roundWithAccuracy_thousandths`). The bounds are inequalities between natural numbers,
scaled by `2` and by `1000`, so each step closes by `omega`.
-/

namespace ResilientAgent

namespace Binary64

open Float.Model UnpackedFloat

theorem toNat_append_eq {a b : Nat} (x : BitVec a) (y : BitVec b) :
    (x ++ y).toNat = x.toNat * 2 ^ b + y.toNat := by
  rw [BitVec.toNat_append, ← Nat.shiftLeft_add_eq_or_of_lt y.isLt, Nat.shiftLeft_eq]

theorem log2_eq_of_bounds {m k : Nat} (hlo : 2 ^ k ≤ m) (hhi : m < 2 ^ (k + 1)) : m.log2 = k :=
  (Nat.log2_eq_iff (by have := Nat.two_pow_pos k; omega)).2 ⟨hlo, hhi⟩

/-- A positive normal binary64 number `m · 2^q`: a mantissa of 53 bits with its top bit set, and
an exponent in the normal range. -/
structure IsNormal (m : Nat) (q : Int) : Prop where
  mantissa_ge : 2 ^ 52 ≤ m
  mantissa_lt : m < 2 ^ 53
  exponent_ge : -1074 ≤ q
  exponent_le : q ≤ 971

/-- The bits of the positive normal number `m · 2^q`. -/
def normal (m : Nat) (q : Int) : BitVec Format.binary64.numBits :=
  packComponents Format.binary64 .positive (BitVec.ofNat 11 (q + 1075).toNat) (BitVec.ofNat 52 m)

section Bits

variable {m : Nat} {q : Int}

theorem toNat_normal (h : IsNormal m q) :
    (normal m q).toNat = (q + 1075).toNat * 2 ^ 52 + (m - 2 ^ 52) := by
  have := h.mantissa_ge; have := h.mantissa_lt; have := h.exponent_ge; have := h.exponent_le
  simp only [normal, packComponents, toNat_append_eq, BitVec.toNat_ofNat, Sign.toBitVec]
  simp
  omega

theorem unpack_normal (h : IsNormal m q) :
    unpack Format.binary64 (normal m q) =
      .finite .positive m q (Nat.lt_of_lt_of_le (Nat.two_pow_pos 52) h.mantissa_ge) := by
  have := h.mantissa_ge; have := h.mantissa_lt; have := h.exponent_ge; have := h.exponent_le
  have hfield : (BitVec.ofNat 11 (q + 1075).toNat).toNat = (q + 1075).toNat := by
    simp only [BitVec.toNat_ofNat]
    omega
  have htop : BitVec.ofNat 11 (q + 1075).toNat ≠ -1#11 := by
    rw [ne_eq, ← BitVec.toNat_inj, hfield]
    simp
    omega
  have hzero : BitVec.ofNat 11 (q + 1075).toNat ≠ 0#11 := by
    rw [ne_eq, ← BitVec.toNat_inj, hfield]
    simp
    omega
  have hsign : Sign.ofBitVec (@unpackSign Format.binary64 (normal m q)) = .positive := by
    have hlt : (normal m q).toNat < 2 ^ 63 := by
      rw [toNat_normal h]
      omega
    rw [Sign.ofBitVec, if_pos]
    apply BitVec.eq_of_toNat_eq
    simp only [unpackSign, BitVec.toNat_cast, BitVec.extractLsb_toNat, Nat.shiftRight_eq_div_pow]
    norm_num
    omega
  have hmant : (1#1 ++ BitVec.ofNat 52 m).toNat = m := by
    rw [toNat_append_eq]
    simp only [BitVec.toNat_ofNat]
    omega
  have hbias : (Format.binary64.exponentBias : Int) = 1023 := rfl
  simp only [UnpackedFloat.unpack, hsign]
  simp only [normal, unpackMantissa_packComponents, unpackExponent_packComponents, htop, hzero,
    if_false, hmant, hfield, hbias]
  congr 1
  omega

theorem log2_of_isNormal (h : IsNormal m q) : m.log2 = 52 :=
  log2_eq_of_bounds h.mantissa_ge h.mantissa_lt

theorem pack_normal (h : IsNormal m q) (hm : 0 < m) :
    pack Format.binary64 (.finite .positive m q hm) = normal m q := by
  have := h.exponent_ge; have := h.exponent_le
  have hbias : (Format.binary64.exponentBias : Int) = 1023 := rfl
  have hbits : Format.binary64.mantissaBits = 53 := rfl
  simp only [UnpackedFloat.pack, log2_of_isNormal h, hbias, hbits]
  rw [if_neg (by simp; omega), if_pos trivial, normal]
  congr 2
  omega

theorem decode_normal (h : IsNormal m q) :
    Numeral.Format.binary64.decode (normal m q).toNat = .finite false m q := by
  have := h.mantissa_ge; have := h.mantissa_lt; have := h.exponent_ge; have := h.exponent_le
  have hfraction : (normal m q).toNat % 2 ^ 52 = m - 2 ^ 52 := by rw [toNat_normal h]; omega
  have hfield : (normal m q).toNat / 2 ^ 52 % 2 ^ 11 = (q + 1075).toNat := by
    rw [toNat_normal h]; omega
  have hsign : (normal m q).toNat / 2 ^ (52 + 11) % 2 = 0 := by rw [toNat_normal h]; omega
  simp only [Numeral.Format.decode, Numeral.Format.binary64, Numeral.Format.topField,
    Numeral.Format.minExponent, Numeral.Format.bias, Nat.pow_eq, hfraction, hfield, hsign]
  rw [if_neg (by simp; omega), if_neg (by simp; omega)]
  congr 1
  · omega
  · omega

end Bits

section Rounding

theorem roundToNearestEven_accuracyOfFraction (Q : Nat) {R d : Nat} (hR : R < d) :
    2 * (d * Q + R) ≤ 2 * (d * (accuracyOfFraction R d).roundToNearestEven Q) + d ∧
      2 * (d * (accuracyOfFraction R d).roundToNearestEven Q) ≤ 2 * (d * Q + R) + d := by
  unfold accuracyOfFraction
  by_cases hzero : R = 0
  · simp only [hzero, if_true, Accuracy.roundToNearestEven]
    omega
  rw [if_neg hzero]
  rcases Nat.lt_trichotomy (2 * R) d with hlt | heq | hgt
  · simp only [compare_lt_iff_lt.2 hlt, Accuracy.roundToNearestEven]
    omega
  · -- a tie goes to the even neighbour, either of which is half a unit away
    simp only [compare_eq_iff_eq.2 heq, Accuracy.roundToNearestEven]
    rcases Nat.mod_two_eq_zero_or_one Q with hQ | hQ <;>
      simp only [hQ, Nat.add_zero, Nat.mul_add, Nat.mul_one] <;> omega
  · simp only [compare_gt_iff_gt.2 hgt, Accuracy.roundToNearestEven, Nat.mul_add, Nat.mul_one]
    omega

theorem roundedMantissa_ofMantissaAndAccuracy (m : Nat) (acc : Accuracy) :
    (ExtendedMantissa.ofMantissaAndAccuracy m acc).roundedMantissa = acc.roundToNearestEven m := by
  rcases acc with _ | (_ | _ | _) <;> rfl

theorem shiftRightOne_ofMantissaAndAccuracy (Q : Nat) {R d : Nat} (hR : R < d) :
    (ExtendedMantissa.ofMantissaAndAccuracy Q (accuracyOfFraction R d)).shiftRightOne =
      ExtendedMantissa.ofMantissaAndAccuracy (Q / 2)
        (accuracyOfFraction (Q % 2 * d + R) (2 * d)) := by
  have hd : d ≠ 0 := by omega
  unfold accuracyOfFraction
  rcases Nat.mod_two_eq_zero_or_one Q with hQ | hQ
  · by_cases hzero : R = 0
    · simp [hzero, hQ, ExtendedMantissa.ofMantissaAndAccuracy, ExtendedMantissa.shiftRightOne]
    · have hlt : compare (2 * R) (2 * d) = .lt := compare_lt_iff_lt.2 (by omega)
      cases compare (2 * R) d <;>
        simp [hzero, hQ, hlt, ExtendedMantissa.ofMantissaAndAccuracy,
          ExtendedMantissa.shiftRightOne]
  · by_cases hzero : R = 0
    · simp [hzero, hQ, hd, ExtendedMantissa.ofMantissaAndAccuracy, ExtendedMantissa.shiftRightOne]
    · have hgt : compare (2 * (d + R)) (2 * d) = .gt := compare_gt_iff_gt.2 (by omega)
      cases compare (2 * R) d <;>
        simp [hzero, hQ, hgt, ExtendedMantissa.ofMantissaAndAccuracy,
          ExtendedMantissa.shiftRightOne]

theorem shiftToTargetExponent_binary64 (m : Nat) (x : Int) (acc : Accuracy) (hm : 52 ≤ m.log2)
    (hx : -1074 ≤ x) :
    shiftToTargetExponent Format.binary64 m x acc =
      (ExtendedMantissa.ofMantissaAndAccuracy m acc >>> (m.log2 - 52),
        x + (m.log2 - 52 : Nat)) := by
  have hmin : Format.binary64.minExponent = -1074 := rfl
  have hbits : Format.binary64.mantissaBits = 53 := rfl
  have htarget : (Format.binary64.targetExponent (totalExponent m x) - x).toNat = m.log2 - 52 := by
    simp only [Format.targetExponent, totalExponent, hmin, hbits]
    omega
  simp only [shiftToTargetExponent, shiftToExponent, htarget]

theorem roundedMantissa_thousandths {Q R : Nat} {x : Int} (hQ : 2 ^ 52 ≤ Q) (hQ' : Q < 2 ^ 54)
    (hR : R < 1000) (hx : -1074 ≤ x) :
    ∃ t : Nat, t ≤ 1 ∧ ∃ Y,
      (shiftToTargetExponent Format.binary64 Q x (accuracyOfFraction R 1000)).2 = x + t ∧
      (shiftToTargetExponent Format.binary64 Q x (accuracyOfFraction R 1000)).1.roundedMantissa =
        Y ∧
      2 ^ 52 ≤ Y ∧ Y ≤ 2 ^ 53 ∧
      2 * (1000 * Q + R) ≤ 2 * (1000 * (Y * 2 ^ t)) + 1000 * 2 ^ t ∧
      2 * (1000 * (Y * 2 ^ t)) ≤ 2 * (1000 * Q + R) + 1000 * 2 ^ t := by
  by_cases hsmall : Q < 2 ^ 53
  · -- 53 bits already: no shift, one rounding
    have hlog : Q.log2 = 52 := log2_eq_of_bounds hQ hsmall
    rw [shiftToTargetExponent_binary64 Q x _ hlog.ge hx, hlog]
    have hY := roundToNearestEven_accuracyOfFraction Q hR
    refine ⟨0, by omega, _, by simp, rfl, ?_⟩
    rw [Nat.sub_self,
      show ExtendedMantissa.ofMantissaAndAccuracy Q (accuracyOfFraction R 1000) >>> 0 =
        ExtendedMantissa.ofMantissaAndAccuracy Q (accuracyOfFraction R 1000) from rfl,
      roundedMantissa_ofMantissaAndAccuracy]
    simp only [pow_zero, Nat.mul_one]
    omega
  · -- 54 bits: one bit is shifted out first, into the fraction
    have hlog : Q.log2 = 53 := log2_eq_of_bounds (by omega) hQ'
    rw [shiftToTargetExponent_binary64 Q x _ (by omega) hx, hlog]
    have hY := roundToNearestEven_accuracyOfFraction (Q / 2)
      (show Q % 2 * 1000 + R < 2 * 1000 by omega)
    refine ⟨1, le_rfl, _, by simp, rfl, ?_⟩
    rw [show 53 - 52 = 1 from rfl,
      show ExtendedMantissa.ofMantissaAndAccuracy Q (accuracyOfFraction R 1000) >>> 1 =
        (ExtendedMantissa.ofMantissaAndAccuracy Q (accuracyOfFraction R 1000)).shiftRightOne
        from rfl,
      shiftRightOne_ofMantissaAndAccuracy Q hR, roundedMantissa_ofMantissaAndAccuracy]
    simp only [pow_one]
    omega

theorem roundWithAccuracy_of_shifts {spec : Format} {sign : Sign} {m : Nat} {e : Int}
    {acc : Accuracy} {em em' : ExtendedMantissa} {e₁ e' : Int}
    (h₁ : shiftToTargetExponent spec m e acc = (em, e₁))
    (h₂ : shiftToTargetExponent spec em.roundedMantissa e₁ .exact = (em', e'))
    (hpos : 0 < em'.mantissa) :
    roundWithAccuracy spec sign m e acc = .finite sign em'.mantissa e' hpos := by
  simp only [roundWithAccuracy, h₁, h₂]
  rw [dif_neg (Nat.pos_iff_ne_zero.1 hpos)]

/-- Rounding `Q + R / 1000` units of `2^x`, for `Q` of 53 or 54 bits, gives the normal number
`Y · 2^(x + s)` with `s ≤ 2`, within half of `2^s` units of the exact value. -/
theorem pack_roundWithAccuracy_thousandths {Q R : Nat} {x : Int} (hQ : 2 ^ 52 ≤ Q)
    (hQ' : Q < 2 ^ 54) (hR : R < 1000) (hx : -1074 ≤ x) (hx' : x ≤ 969) :
    ∃ Y s : Nat, s ≤ 2 ∧ IsNormal Y (x + s) ∧
      pack Format.binary64 (roundWithAccuracy Format.binary64 .positive Q x
        (accuracyOfFraction R 1000)) = normal Y (x + s) ∧
      2 * (1000 * Q + R) ≤ 2 * (1000 * (Y * 2 ^ s)) + 1000 * 2 ^ s ∧
      2 * (1000 * (Y * 2 ^ s)) ≤ 2 * (1000 * Q + R) + 1000 * 2 ^ s := by
  obtain ⟨t, ht, Y₀, he, hY₀, hlo, hhi, hbelow, habove⟩ := roundedMantissa_thousandths hQ hQ' hR hx
  rcases hs : shiftToTargetExponent Format.binary64 Q x (accuracyOfFraction R 1000) with ⟨em, e⟩
  rw [hs] at he hY₀
  simp only at he hY₀
  subst he hY₀
  by_cases hcarry : em.roundedMantissa < 2 ^ 53
  · -- the rounded mantissa still has 53 bits, and the second shift keeps it
    have hlog : em.roundedMantissa.log2 = 52 := log2_eq_of_bounds hlo hcarry
    have hnormal : IsNormal em.roundedMantissa (x + t) := ⟨hlo, hcarry, by omega, by omega⟩
    have hfinal := shiftToTargetExponent_binary64 em.roundedMantissa (x + t) .exact hlog.ge
      (by omega)
    rw [hlog, Nat.sub_self, Nat.cast_zero, Int.add_zero] at hfinal
    refine ⟨em.roundedMantissa, t, by omega, hnormal, ?_, hbelow, habove⟩
    rw [roundWithAccuracy_of_shifts hs hfinal (by change 0 < em.roundedMantissa; omega)]
    exact pack_normal hnormal _
  · -- rounding carried into a 54th bit, which the second shift drops
    have hY : em.roundedMantissa = 2 ^ 53 := by omega
    have hnormal : IsNormal (2 ^ 52) (x + (t + 1 : Nat)) := ⟨le_rfl, by decide, by omega, by omega⟩
    have hfinal := shiftToTargetExponent_binary64 em.roundedMantissa (x + t) .exact
      (by rw [hY]; decide) (by omega)
    have hmant :
        (ExtendedMantissa.ofMantissaAndAccuracy em.roundedMantissa .exact >>> 1).mantissa =
          2 ^ 52 := by
      rw [hY]
      rfl
    rw [show em.roundedMantissa.log2 - 52 = 1 by rw [hY]; decide,
      show x + (t : Int) + ((1 : Nat) : Int) = x + ((t + 1 : Nat) : Int) by push_cast; ring]
      at hfinal
    rw [hY] at hbelow habove
    refine ⟨2 ^ 52, t + 1, by omega, hnormal, ?_, ?_, ?_⟩
    · rw [roundWithAccuracy_of_shifts hs hfinal (by rw [hmant]; decide)]
      simp only [hmant]
      exact pack_normal hnormal _
    · rw [pow_succ]
      omega
    · rw [pow_succ]
      omega

theorem accuracyOfFraction_mul_right (a b : Nat) {c : Nat} (hc : 0 < c) :
    accuracyOfFraction (a * c) (b * c) = accuracyOfFraction a b := by
  unfold accuracyOfFraction
  by_cases ha : a = 0
  · simp [ha]
  rw [if_neg (by simp; omega), if_neg ha, ← Nat.mul_assoc]
  rcases Nat.lt_trichotomy (2 * a) b with hlt | heq | hgt
  · rw [compare_lt_iff_lt.2 hlt, compare_lt_iff_lt.2 (Nat.mul_lt_mul_of_pos_right hlt hc)]
  · rw [compare_eq_iff_eq.2 heq, compare_eq_iff_eq.2 (by rw [heq])]
  · rw [compare_gt_iff_gt.2 hgt, compare_gt_iff_gt.2 (Nat.mul_lt_mul_of_pos_right hgt hc)]

theorem divCore_thousand {M : Nat} {e : Int} (hlo : 2 ^ 52 ≤ M) (hhi : M < 2 ^ 53)
    (he : -1064 ≤ e) :
    divCore Format.binary64 M e 8796093022208000 (-43) =
      (M * 1024 / 1000, e - 10, accuracyOfFraction (M * 1024 % 1000) 1000) := by
  have hlog : M.log2 = 52 := log2_eq_of_bounds hlo hhi
  have hlog' : Nat.log2 8796093022208000 = 52 := log2_eq_of_bounds (by norm_num) (by norm_num)
  have hmin : Format.binary64.minExponent = -1074 := rfl
  have hbits : Format.binary64.mantissaBits = 53 := rfl
  have htarget : min (e - -43) (Format.binary64.targetExponent
      (totalExponent M e - totalExponent 8796093022208000 (-43))) = e - 10 := by
    simp only [Format.targetExponent, totalExponent, hlog, hlog', hmin, hbits]
    omega
  have hm : M <<< 53 = M * 1024 * 2 ^ 43 := by
    rw [Nat.shiftLeft_eq, Nat.mul_assoc]
    norm_num
  have hd : (8796093022208000 : Nat) = 1000 * 2 ^ 43 := by norm_num
  simp only [divCore, htarget, show (e - -43 - (e - 10)).toNat = 53 by omega, hm]
  rw [hd, Nat.mul_div_mul_right _ _ (Nat.two_pow_pos 43), Nat.mul_mod_mul_right,
    accuracyOfFraction_mul_right _ _ (Nat.two_pow_pos 43)]

end Rounding

section Integers

theorem roundHalfEven_near (n : Nat) {d : Nat} (hd : 0 < d) :
    2 * n ≤ 2 * (d * Numeral.roundHalfEven n d) + d ∧
      2 * (d * Numeral.roundHalfEven n d) ≤ 2 * n + d := by
  have hdiv := Nat.div_add_mod n d
  have hmod := Nat.mod_lt n hd
  unfold Numeral.roundHalfEven
  dsimp only
  split_ifs <;> first | omega | (rw [Nat.mul_add, Nat.mul_one]; omega)

theorem roundHalfEven_eq_of_near {n d q : Nat} (hd : 0 < d) (hlo : 2 * n < 2 * (d * q) + d)
    (hhi : 2 * (d * q) < 2 * n + d) : Numeral.roundHalfEven n d = q := by
  obtain ⟨hbelow, habove⟩ := roundHalfEven_near n hd
  have hle : d * Numeral.roundHalfEven n d < d * (q + 1) := by
    rw [Nat.mul_add, Nat.mul_one]
    omega
  have hge : d * q < d * (Numeral.roundHalfEven n d + 1) := by
    rw [Nat.mul_add, Nat.mul_one]
    omega
  have := Nat.lt_of_mul_lt_mul_left hle
  have := Nat.lt_of_mul_lt_mul_left hge
  omega

theorem div_le_roundHalfEven (n d : Nat) : n / d ≤ Numeral.roundHalfEven n d := by
  unfold Numeral.roundHalfEven
  dsimp only
  split_ifs <;> omega

theorem roundHalfEven_one (n : Nat) : Numeral.roundHalfEven n 1 = n := by
  simp [Numeral.roundHalfEven, Nat.mod_one]

theorem floorLog2_one {E : Nat} (hE : E ≠ 0) : Numeral.floorLog2 E 1 = E.log2 := by
  have hlo := Nat.log2_self_le hE
  have hone : Nat.log2 1 = 0 := by decide
  unfold Numeral.floorLog2 Numeral.compareScaled
  simp only [hone, Nat.cast_zero, Int.sub_zero, Int.zero_sub, Int.toNat_natCast, Nat.pow_eq,
    Nat.one_mul]
  rw [if_neg]
  rw [show (-(E.log2 : Int)).toNat = 0 by omega, pow_zero, Nat.mul_one]
  simp [compare_gt_iff_gt, hlo]

theorem isNormal_of_lt {E : Nat} (h1 : 1 ≤ E) (h2 : E < 2 ^ 53) :
    IsNormal (E * 2 ^ (52 - E.log2)) (E.log2 - 52) := by
  have hk : E.log2 < 53 := (Nat.log2_lt (by omega)).2 h2
  have hlo := Nat.log2_self_le (show E ≠ 0 by omega)
  have hhi := Nat.lt_log2_self (n := E)
  have hP : 2 ^ E.log2 * 2 ^ (52 - E.log2) = 2 ^ 52 := by rw [← pow_add]; congr 1; omega
  have hP' : 2 ^ (E.log2 + 1) * 2 ^ (52 - E.log2) = 2 ^ 53 := by rw [← pow_add]; congr 1; omega
  exact ⟨hP ▸ Nat.mul_le_mul_right _ hlo,
    hP' ▸ Nat.mul_lt_mul_of_pos_right hhi (Nat.two_pow_pos _), by omega, by omega⟩

theorem roundRatio_of_lt {E : Nat} (h1 : 1 ≤ E) (h2 : E < 2 ^ 53) :
    Numeral.Format.binary64.roundRatio false E 1 =
      (normal (E * 2 ^ (52 - E.log2)) (E.log2 - 52)).toNat := by
  have hk : E.log2 < 53 := (Nat.log2_lt (by omega)).2 h2
  have hnormal := isNormal_of_lt h1 h2
  have hmlo := hnormal.mantissa_ge
  have hmhi := hnormal.mantissa_lt
  have hmin : Numeral.Format.binary64.minExponent = -1074 := rfl
  have hfrac : Numeral.Format.binary64.fractionBits = 52 := rfl
  have hprec : Numeral.Format.binary64.precision = 53 := rfl
  have htop : Numeral.Format.binary64.topField = 2047 := rfl
  have hzero : Numeral.Format.binary64.zeroBits false = 0 := rfl
  have he : max ((E.log2 : Int) - (52 : Nat)) (-1074) = E.log2 - 52 := by omega
  have hm : Numeral.roundHalfEven (E * Nat.pow 2 (-((E.log2 : Int) - 52)).toNat)
      (1 * Nat.pow 2 ((E.log2 : Int) - 52).toNat) = E * 2 ^ (52 - E.log2) := by
    rw [show ((E.log2 : Int) - 52).toNat = 0 by omega,
      show (-((E.log2 : Int) - 52)).toNat = 52 - E.log2 by omega]
    exact roundHalfEven_one _
  have hcarry : (E * 2 ^ (52 - E.log2) == Nat.pow 2 53) = false := by simp; omega
  unfold Numeral.Format.roundRatio
  simp only [floorLog2_one (show E ≠ 0 by omega), hmin, hfrac, hprec, htop, hzero, he, hm, hcarry,
    Bool.false_eq_true, if_false, show (E == 0 || 1 == 0) = false by simp; omega]
  rw [if_neg (by simp only [Nat.pow_eq]; omega), if_neg (by omega), toNat_normal hnormal]
  simp only [Nat.pow_eq, Nat.zero_add]
  congr 2
  omega

theorem roundRatio_of_lt_two_pow_54 {E : Nat} (h1 : 2 ^ 53 ≤ E) (h2 : E < 2 ^ 54) :
    ∃ M e, 1 ≤ e ∧ e ≤ 2 ∧ IsNormal M e ∧
      Numeral.Format.binary64.roundRatio false E 1 = (normal M e).toNat := by
  have hk : E.log2 = 53 := log2_eq_of_bounds h1 h2
  have hmin : Numeral.Format.binary64.minExponent = -1074 := rfl
  have hfrac : Numeral.Format.binary64.fractionBits = 52 := rfl
  have hprec : Numeral.Format.binary64.precision = 53 := rfl
  have htop : Numeral.Format.binary64.topField = 2047 := rfl
  have hzero : Numeral.Format.binary64.zeroBits false = 0 := rfl
  have he : max (((53 : Nat) : Int) - (52 : Nat)) (-1074) = 1 := by omega
  obtain ⟨hbelow, habove⟩ := roundHalfEven_near E (show 0 < 2 by omega)
  unfold Numeral.Format.roundRatio
  simp only [floorLog2_one (show E ≠ 0 by omega), hk, hmin, hfrac, hprec, htop, hzero, he,
    show (E == 0 || 1 == 0) = false by simp; omega, Bool.false_eq_true, if_false,
    show (-1 : Int).toNat = 0 from rfl, show (1 : Int).toNat = 1 from rfl, Nat.pow_eq, pow_zero,
    pow_one, Nat.mul_one, Nat.one_mul]
  by_cases hcarry : Numeral.roundHalfEven E 2 = 2 ^ 53
  · have hnormal : IsNormal (2 ^ 52) 2 := ⟨le_rfl, by decide, by omega, by omega⟩
    refine ⟨2 ^ 52, 2, by omega, le_rfl, hnormal, ?_⟩
    rw [hcarry, toNat_normal hnormal]
    simp
  · have hnormal : IsNormal (Numeral.roundHalfEven E 2) 1 :=
      ⟨by omega, by omega, by omega, by omega⟩
    refine ⟨Numeral.roundHalfEven E 2, 1, le_rfl, by omega, hnormal, ?_⟩
    simp only [beq_iff_eq, hcarry, if_false]
    rw [if_neg (by omega), if_neg (by omega), toNat_normal hnormal]
    omega

end Integers

/-- The float `x` is the positive normal number `m · 2^q`. -/
structure Represents (x : Float) (m : Nat) (q : Int) : Prop where
  normal : IsNormal m q
  bits : x.toModel.toBits.toBitVec = Binary64.normal m q

namespace Represents

variable {x : Float} {m : Nat} {q : Int}

theorem unpack (h : Represents x m q) :
    x.toModel.unpack = .finite .positive m q
      (Nat.lt_of_lt_of_le (Nat.two_pow_pos 52) h.normal.mantissa_ge) := by
  rw [Float.Model.unpack, h.bits, unpack_normal h.normal]

theorem decode (h : Represents x m q) :
    Numeral.Format.binary64.decode x.toBits.toNat = .finite false m q := by
  have hbits : x.toBits.toNat = (Binary64.normal m q).toNat := by
    rw [← h.bits]
    rfl
  rw [hbits, decode_normal h.normal]

theorem of_pack (hn : IsNormal m q) {u : UnpackedFloat}
    (hu : UnpackedFloat.pack Format.binary64 u = Binary64.normal m q) :
    Represents (Float.ofModel (Float.Model.pack u)) m q :=
  ⟨hn, by simp [Float.Model.pack, hu]⟩

theorem ofBits64 (hn : IsNormal m q) :
    Represents (Numeral.ofBits64 (Binary64.normal m q).toNat) m q := by
  unfold Numeral.ofBits64 Float.ofBits Float.Model.ofBits
  apply of_pack hn
  have hbits : (Binary64.normal m q).toNat.toUInt64.toBitVec = Binary64.normal m q := by
    simp
  rw [hbits, unpack_normal hn, pack_normal hn]

theorem not_lt_zero (h : Represents x m q) : ¬ x < 0.0 := by
  have hzero : (0.0 : Float).toModel.unpack = .zero .positive := rfl
  intro hlt
  change decide (x.toModel.unpack.lt (0.0 : Float).toModel.unpack = true) = true at hlt
  rw [h.unpack, hzero] at hlt
  simp [UnpackedFloat.lt, UnpackedFloat.compare] at hlt

end Represents

theorem represents_thousand : Represents 1000.0 8796093022208000 (-43) :=
  ⟨⟨by norm_num, by norm_num, by norm_num, by norm_num⟩, by decide⟩

/-- Dividing a positive normal number by `1000.0` gives a normal number ten binary places down,
or up to two fewer, within half of its last place of the exact quotient. -/
theorem Represents.div_thousand {x : Float} {m : Nat} {q : Int} (h : Represents x m q)
    (hq : -1064 ≤ q) (hq' : q ≤ 979) :
    ∃ Y s : Nat, s ≤ 2 ∧ Represents (x / 1000.0) Y (q - 10 + s) ∧
      2 * (1024 * m) ≤ 2 * (1000 * (Y * 2 ^ s)) + 1000 * 2 ^ s ∧
      2 * (1000 * (Y * 2 ^ s)) ≤ 2 * (1024 * m) + 1000 * 2 ^ s := by
  have hm := h.normal.mantissa_ge
  have hm' := h.normal.mantissa_lt
  obtain ⟨Y, s, hs, hn, hpack, hbelow, habove⟩ :=
    pack_roundWithAccuracy_thousandths (Q := m * 1024 / 1000) (R := m * 1024 % 1000)
      (x := q - 10) (by omega) (by omega) (Nat.mod_lt _ (by omega)) (by omega) (by omega)
  have hquot : 1000 * (m * 1024 / 1000) + m * 1024 % 1000 = 1024 * m := by omega
  rw [hquot] at hbelow habove
  refine ⟨Y, s, hs, ?_, hbelow, habove⟩
  show Represents (Float.ofModel (Float.Model.pack (UnpackedFloat.div Format.binary64
    x.toModel.unpack (1000.0 : Float).toModel.unpack))) Y (q - 10 + s)
  rw [h.unpack, represents_thousand.unpack]
  refine Represents.of_pack hn ?_
  simp only [UnpackedFloat.div, divCore_thousand hm hm' hq]
  exact hpack

theorem floatOfInt_natCast (E : Nat) :
    Numeral.floatOfInt E = Numeral.ofBits64 (Numeral.Format.binary64.roundRatio false E 1) := by
  simp only [Numeral.floatOfInt, Int.natAbs_natCast]
  congr

theorem represents_floatOfInt_of_lt {E : Nat} (h1 : 1 ≤ E) (h2 : E < 2 ^ 53) :
    Represents (Numeral.floatOfInt E) (E * 2 ^ (52 - E.log2)) (E.log2 - 52) := by
  rw [floatOfInt_natCast, roundRatio_of_lt h1 h2]
  exact Represents.ofBits64 (isNormal_of_lt h1 h2)

theorem represents_floatOfInt_of_lt_two_pow_54 {E : Nat} (h1 : 2 ^ 53 ≤ E) (h2 : E < 2 ^ 54) :
    ∃ M e, 1 ≤ e ∧ e ≤ 2 ∧ Represents (Numeral.floatOfInt E) M e := by
  obtain ⟨M, e, he, he', hnormal, hbits⟩ := roundRatio_of_lt_two_pow_54 h1 h2
  rw [floatOfInt_natCast, hbits]
  exact ⟨M, e, he, he', Represents.ofBits64 hnormal⟩

end Binary64

end ResilientAgent
