import ResilientAgent.Store.Backend

/-!
# Instants on whole milliseconds

A database keeps every instant cut to the millisecond below, and compares retention and time to
live by a cutoff in whole milliseconds, where memory adds the duration to the instant with
saturation. When the clock reads whole milliseconds, the durations are whole milliseconds and a
deadline made from a reading and a duration stays within the representable range, the two agree:
a database keeps each such instant exactly (`Backend.stamp_of_wholeMillis`), and its cutoff
decides as the saturating deadline does (`Instant.add_le_iff_cutoff`), as long as the cutoff, the
clock's milliseconds less the duration's in signed 64-bit arithmetic, does not wrap around
(`Instant.CutoffFits`). A deadline past the last representable instant is where they part: memory
keeps the last nanosecond, a database the last millisecond. A cutoff that wraps is another: a
clock before the epoch less a duration of hundreds of millions of years wraps to a cutoff far in
the future, and a database then finds every record expired.
-/

namespace ResilientAgent

namespace Duration

/-- A duration of whole milliseconds. -/
def WholeMillis (d : Duration) : Prop := d.toNanos % 1000000 = 0

instance (d : Duration) : Decidable d.WholeMillis := inferInstanceAs (Decidable (_ = _))

end Duration

namespace Instant

/-- A representable instant on a whole millisecond. -/
def WholeMillis (t : Instant) : Prop :=
  t.sinceEpoch % 1000000 = 0 ∧ minUtc.sinceEpoch ≤ t.sinceEpoch ∧
    t.sinceEpoch ≤ maxUtc.sinceEpoch

/-- The deadline `ttl` after `now` is a whole number of milliseconds away and no later than the
last representable instant. -/
def DeadlineFits (now : Instant) (ttl : Duration) : Prop :=
  ttl.WholeMillis ∧ now.sinceEpoch + ttl.toNanos ≤ maxUtc.sinceEpoch

instance (t : Instant) : Decidable t.WholeMillis := inferInstanceAs (Decidable (_ ∧ _ ∧ _))

instance (now : Instant) (ttl : Duration) : Decidable (now.DeadlineFits ttl) :=
  inferInstanceAs (Decidable (_ ∧ _))

theorem maxUtc_sinceEpoch : maxUtc.sinceEpoch = 8210266876799999999999 := by decide

theorem minUtc_sinceEpoch : minUtc.sinceEpoch = -8334601228800000000000 := by decide

theorem truncateMillis_of_wholeMillis {t : Instant} (h : t.WholeMillis) : t.truncateMillis = t := by
  obtain ⟨hwhole, -⟩ := h
  cases t with
  | mk n =>
    simp only [truncateMillis, Instant.mk.injEq]
    exact Int.ediv_mul_cancel (Int.dvd_of_emod_eq_zero hwhole)

theorem add_sinceEpoch (t : Instant) (d : Duration) :
    (t.add d).sinceEpoch = min (t.sinceEpoch + d.toNanos) maxUtc.sinceEpoch := by
  unfold add
  dsimp only
  split
  · exact (Int.min_eq_left ‹_›).symm
  · exact (Int.min_eq_right (by omega)).symm

theorem add_of_deadlineFits {now : Instant} {ttl : Duration} (h : now.DeadlineFits ttl) :
    now.add ttl = ⟨now.sinceEpoch + ttl.toNanos⟩ := by
  simp [add, h.2]

theorem WholeMillis.add {now : Instant} {ttl : Duration} (hnow : now.WholeMillis)
    (h : now.DeadlineFits ttl) : (now.add ttl).WholeMillis := by
  obtain ⟨hwhole, hmin, -⟩ := hnow
  obtain ⟨httl, hmax⟩ := h
  unfold Duration.WholeMillis at httl
  rw [add_of_deadlineFits ⟨httl, hmax⟩]
  exact ⟨show (now.sinceEpoch + ttl.toNanos) % 1000000 = 0 by omega,
    show minUtc.sinceEpoch ≤ now.sinceEpoch + ttl.toNanos by omega, hmax⟩

/-- The database's cutoff for `d` before `now` is within the signed 64-bit range, so the
subtraction that makes it does not wrap around. -/
def CutoffFits (now : Instant) (d : Duration) : Prop :=
  -9223372036854775808 ≤ now.millis - d.cappedMillis

instance (now : Instant) (d : Duration) : Decidable (now.CutoffFits d) :=
  inferInstanceAs (Decidable (_ ≤ _))

theorem cappedMillis_le (d : Duration) : d.cappedMillis ≤ 9223372036854775807 := by
  have hcap : Nat.pow 2 63 - 1 = 9223372036854775807 := rfl
  have hmin := Nat.min_le_right d.millis (Nat.pow 2 63 - 1)
  rw [hcap] at hmin
  rw [Duration.cappedMillis, hcap]
  exact Int.ofNat_le.2 hmin

theorem millis_lt_of_wholeMillis {t : Instant} (h : t.WholeMillis) :
    -9223372036854775808 ≤ t.millis ∧ t.millis < 9223372036854775808 := by
  obtain ⟨-, hmin, hmax⟩ := h
  rw [minUtc_sinceEpoch] at hmin
  rw [maxUtc_sinceEpoch] at hmax
  unfold millis
  omega

theorem millisBefore_of_cutoffFits {now : Instant} {d : Duration} (hnow : now.WholeMillis)
    (hfit : now.CutoffFits d) : now.millisBefore d = now.millis - d.cappedMillis := by
  obtain ⟨hlow, hhigh⟩ := millis_lt_of_wholeMillis hnow
  have hcap := cappedMillis_le d
  have hcap₀ : 0 ≤ d.cappedMillis := Int.natCast_nonneg _
  unfold CutoffFits at hfit
  have hsize : ((Int64.size : Nat) : Int) = 2 ^ 64 := rfl
  have hnow' : (Int64.ofInt now.millis).toInt = now.millis := by
    rw [Int64.toInt_ofInt]
    exact Int.bmod_eq_of_le (by rw [hsize]; omega) (by rw [hsize]; omega)
  have hd' : (Int64.ofInt d.cappedMillis).toInt = d.cappedMillis := by
    rw [Int64.toInt_ofInt]
    exact Int.bmod_eq_of_le (by rw [hsize]; omega) (by rw [hsize]; omega)
  rw [millisBefore, Int64.toInt_sub, hnow', hd']
  exact Int.bmod_eq_of_le (by omega) (by omega)

/-- The database's cutoff decides as the saturating deadline does: a duration `d` after `at_` has
passed by `now` exactly when `at_`, in whole milliseconds, is no later than `now` less `d`, with
`d` capped at the largest signed 64-bit count of milliseconds, as long as that difference does not
wrap around. -/
theorem add_le_iff_cutoff {at_ now : Instant} {d : Duration} (hat : at_.WholeMillis)
    (hnow : now.WholeMillis) (hd : d.WholeMillis) (hfit : now.CutoffFits d) :
    (at_.add d).sinceEpoch ≤ now.sinceEpoch ↔ at_.millis ≤ now.millisBefore d := by
  rw [millisBefore_of_cutoffFits hnow hfit]
  obtain ⟨hatWhole, hatMin, -⟩ := hat
  obtain ⟨hnowWhole, -, hnowMax⟩ := hnow
  unfold Duration.WholeMillis at hd
  have hcap : Nat.pow 2 63 - 1 = 9223372036854775807 := rfl
  rw [minUtc_sinceEpoch] at hatMin
  rw [maxUtc_sinceEpoch] at hnowMax
  simp only [add_sinceEpoch, millis, Duration.cappedMillis, Duration.millis, hcap,
    maxUtc_sinceEpoch, Nat.min_def, Int.ofNat_eq_natCast]
  split <;> omega

end Instant

/-- A backend keeps a representable whole millisecond as it is. -/
theorem Backend.stamp_of_wholeMillis (b : Backend) {t : Instant} (h : t.WholeMillis) :
    b.stamp t = t := by
  cases b with
  | memory => rfl
  | database => exact Instant.truncateMillis_of_wholeMillis h

end ResilientAgent
