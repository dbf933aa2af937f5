import Mathlib
import ResilientAgent.Config.Env
import ResilientAgent.Resilience.Bucket

/-!
# Bucket settings that pass validation

`RuntimeConfig.validate` refuses a rate-limit bucket whose rate or burst size is at most zero.
A comparison with NaN is false either way round, so a NaN rate passes the check, and so does a
NaN burst size, which a NaN rate gives when no burst size is set, since the burst size defaults
to the rate. A bucket with a NaN burst size cannot be refilled: keeping its level within
`[0, capacity]` stops the program (`BucketConfig.refillFault?`). Such settings are reachable:
layering `AGENT_LLM_RATE=nan` over a model bucket without a burst size gives one, and validation
accepts it (`nan_rate_passes_validation`).

For settings without NaN the check does what it is meant to: every bucket of validated settings
has a positive rate and burst size, and refilling it never stops the program
(`validated_bucket_honoured`). The order facts come from the IEEE comparison itself: a float that
is no NaN and not at most zero compares above zero.
-/

namespace ResilientAgent

/-! ## Comparing floats with zero -/

namespace Float

open Float.Model

theorem unpack_zero : (0.0 : Float).toModel.unpack = .zero .positive := by
  rfl

theorem le_iff_unpack {x y : Float} : x ≤ y ↔ x.toModel.unpack.le y.toModel.unpack = true := by
  show Float.le x y = true ↔ _
  simp only [Float.le, LE.le, Float.Model.le]
  exact decide_eq_true_iff

theorem lt_iff_unpack {x y : Float} : x < y ↔ x.toModel.unpack.lt y.toModel.unpack = true := by
  show Float.lt x y = true ↔ _
  simp only [Float.lt, LT.lt, Float.Model.lt]
  exact decide_eq_true_iff

theorem le_of_lt {x y : Float} (h : x < y) : x ≤ y := by
  rw [lt_iff_unpack] at h
  rw [le_iff_unpack]
  simp only [UnpackedFloat.lt, beq_iff_eq] at h
  simp [UnpackedFloat.le, h]

theorem pos_of_not_le_zero {x : Float} (hnan : x.isNaN = false) (h : ¬ x ≤ 0.0) : 0.0 < x := by
  rw [le_iff_unpack, unpack_zero] at h
  rw [lt_iff_unpack, unpack_zero]
  change x.toModel.unpack.isNaN = false at hnan
  generalize x.toModel.unpack = u at h hnan
  cases u with
  | notANumber => simp [UnpackedFloat.isNaN] at hnan
  | infinity s => cases s <;> simp_all [UnpackedFloat.compare, UnpackedFloat.le, UnpackedFloat.lt]
  | zero s => simp_all [UnpackedFloat.compare, UnpackedFloat.le]
  | finite s m e hv =>
    cases s <;> simp_all [UnpackedFloat.compare, UnpackedFloat.le, UnpackedFloat.lt]

end Float

/-! ## What validation checks of a bucket -/

theorem Except.ok_of_ite_throw {ε : Type} {P : Prop} [Decidable P] {e : ε}
    {k : Unit → Except ε Unit} (h : (if P then throw e >>= k else k ()) = .ok ()) :
    k () = .ok () := by
  split at h
  · cases h
  · exact h

theorem Except.ok_of_bind_ok {ε α β : Type} {x : Except ε α} {k : α → Except ε β} {r : β}
    (h : (x >>= k) = .ok r) : ∃ a, x = .ok a ∧ k a = .ok r := by
  cases x with
  | error e => cases h
  | ok a => exact ⟨a, rfl, h⟩

theorem forIn_ok_yield {ε α : Type} {xs : List α} {f : α → PUnit → Except ε (ForInStep PUnit)}
    {u : PUnit} (hf : ∀ x, (∃ e, f x () = .error e) ∨ f x () = .ok (.yield ()))
    (h : forIn xs () f = .ok u) : ∀ x ∈ xs, f x () = .ok (.yield ()) := by
  induction xs with
  | nil => simp
  | cons x rest ih =>
    rw [List.forIn_cons] at h
    obtain ⟨s, hs, hk⟩ := Except.ok_of_bind_ok h
    rcases hf x with ⟨e, he⟩ | hgo
    · rw [he] at hs
      cases hs
    · rw [hgo] at hs
      cases hs
      intro y hy
      rcases List.mem_cons.1 hy with rfl | hrest
      · exact hgo
      · exact ih hk y hrest

theorem RuntimeConfig.not_le_zero_of_validate {c : RuntimeConfig} (hvalid : c.validate = .ok ())
    {b : BucketConfig} (hb : c.rateLimit.model = some b ∨ c.rateLimit.tools = some b) :
    ¬ (b.rate ≤ 0.0 ∨ b.effectiveCapacity ≤ 0.0) := by
  revert hvalid
  unfold RuntimeConfig.validate
  extract_lets jp₁ jp₂ jp₃ jp₄ jp₅ jp₆
  intro hvalid
  obtain ⟨u, hloop, -⟩ := Except.ok_of_bind_ok
    (Except.ok_of_ite_throw (Except.ok_of_ite_throw (Except.ok_of_ite_throw hvalid)))
  have hsteps := forIn_ok_yield ?_ hloop
  · have hitem : ∃ name,
        (name, some b) ∈ [("model", c.rateLimit.model), ("tools", c.rateLimit.tools)] := by
      rcases hb with hm | ht
      · exact ⟨"model", by simp [hm]⟩
      · exact ⟨"tools", by simp [ht]⟩
    obtain ⟨name, hmem⟩ := hitem
    have hpassed := hsteps _ hmem
    simp only at hpassed
    split at hpassed
    · cases hpassed
    · rename_i hcheck
      simpa using hcheck
  · -- the body fails on a bucket it refuses and goes on otherwise
    rintro ⟨name, bucket⟩
    cases bucket with
    | none => exact .inr rfl
    | some b =>
      simp only
      split
      · exact .inl ⟨_, rfl⟩
      · exact .inr rfl

theorem BucketConfig.refillFault?_eq_none_iff (b : BucketConfig) :
    b.refillFault? = none ↔ 0.0 ≤ b.effectiveCapacity := by
  show (if 0.0 ≤ b.effectiveCapacity then none else some _) = none ↔ _
  split <;> simp_all

/-! ## Settings without NaN -/

/-- A bucket of validated settings whose rate and burst size are no NaN has a positive rate and
burst size, and refilling it never stops the program. -/
theorem validated_bucket_honoured {c : RuntimeConfig} (hvalid : c.validate = .ok ())
    {b : BucketConfig} (hb : c.rateLimit.model = some b ∨ c.rateLimit.tools = some b)
    (hrate : b.rate.isNaN = false) (hcap : b.effectiveCapacity.isNaN = false) :
    0.0 < b.rate ∧ 0.0 < b.effectiveCapacity ∧ b.refillFault? = none := by
  have hchecked := RuntimeConfig.not_le_zero_of_validate hvalid hb
  have hrate_pos := Float.pos_of_not_le_zero hrate fun h => hchecked (.inl h)
  have hcap_pos := Float.pos_of_not_le_zero hcap fun h => hchecked (.inr h)
  exact ⟨hrate_pos, hcap_pos, (b.refillFault?_eq_none_iff).2 (Float.le_of_lt hcap_pos)⟩

/-- The default model bucket, ten tokens a second with bursts of twenty. -/
theorem default_model_bucket_honoured :
    let b : BucketConfig := ⟨10.0, some 20.0⟩
    ({} : RuntimeConfig).validate = .ok () ∧ ({} : RuntimeConfig).rateLimit.model = some b ∧
      b.rate.isNaN = false ∧ b.effectiveCapacity.isNaN = false ∧
      0.0 < b.rate ∧ 0.0 < b.effectiveCapacity ∧ b.refillFault? = none := by
  intro b
  have hvalid : ({} : RuntimeConfig).validate = .ok () := rfl
  have hrate : b.rate.isNaN = false := by decide
  have hcap : b.effectiveCapacity.isNaN = false := by decide
  exact ⟨hvalid, rfl, hrate, hcap, validated_bucket_honoured hvalid (.inl rfl) hrate hcap⟩

/-! ## A NaN rate -/

/-- A model bucket without a burst size, with `AGENT_LLM_RATE=nan` layered over it, passes
validation with a NaN rate and a NaN burst size, and its first refill stops the program. -/
theorem nan_rate_passes_validation :
    ∃ c b, ({ rateLimit.model := some ⟨2.0, none⟩ } : RuntimeConfig).applyEnv
        (fun key => if key = "AGENT_LLM_RATE" then some "nan" else none) = .ok c ∧
      c.validate = .ok () ∧ c.rateLimit.model = some b ∧ b.rate.isNaN = true ∧
      b.effectiveCapacity.isNaN = true ∧ b.refillFault?.isSome = true :=
  ⟨_, _, rfl, rfl, rfl, by decide, by decide, by decide⟩

end ResilientAgent
