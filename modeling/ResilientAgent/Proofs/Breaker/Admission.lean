import Mathlib
import ResilientAgent.Proofs.Breaker.Counters
import ResilientAgent.Proofs.Bucket.Level
import ResilientAgent.Proofs.Idempotency.Callers
import ResilientAgent.Proofs.Process.Exec
import ResilientAgent.Service.Breaker

/-!
# When a breaker admits a call

Counted exactly, a breaker's cooldown reads as it is meant to. Let `E` be the whole milliseconds
since the last failure, or none if the clock went back (`Instant.millisSince`). An open breaker
rejects a call while `E` is below the recovery timeout, naming the rest of the timeout as the
wait, and otherwise lets a probe through and turns half-open (`permit_open_exact`). A half-open
breaker rejects every other call, naming no wait, while its probe has been out for less than the
recovery timeout, and otherwise takes the caller as the new probe (`permit_halfOpen_exact`).

A call the breaker rejects never runs. With the store in memory, its one turn writes the
breaker's record back as it was, records the rejection and ends with `CircuitOpen` and the wait
(`CircuitBreaker.turn_call_of_rejected`). With either store, and whatever else runs meanwhile,
a finished call made its admission at one world, with the instant it read first
(`CircuitBreaker.exec_admission`); when the breaker's record there rejects the call, the call
wrote that record back, waited for the store (a database answers a round later), recorded the
rejection and failed, and nothing else (`CircuitBreaker.exec_call_of_rejected`).

Running breakers count seconds in floats. Here they are counted in exact rationals
(`CooldownSeconds.instRat`), which read a whole number of milliseconds as exactly that duration.
-/

namespace ResilientAgent

/-- Exact rationals read seconds as the nearest whole nanosecond, refusing negative values and
values of `2^64` seconds or more, and write a duration as its exact seconds. -/
instance CooldownSeconds.instRat : CooldownSeconds ℚ where
  toDuration? x :=
    if x < 0 then .error .negative
    else if (2 : ℚ) ^ 64 ≤ x then .error .tooBigOrNan
    else .ok ⟨(round (x * 1000000000)).toNat⟩
  ofDuration d := (d.toNanos : ℚ) / 1000000000
  decLe := inferInstance

namespace CooldownSeconds

theorem toDuration?_rat (x : ℚ) : toDuration? x =
    if x < 0 then .error .negative
    else if (2 : ℚ) ^ 64 ≤ x then .error .tooBigOrNan
    else .ok ⟨(round (x * 1000000000)).toNat⟩ := rfl

theorem ofDuration_rat (d : Duration) : (ofDuration d : ℚ) = (d.toNanos : ℚ) / 1000000000 := rfl

end CooldownSeconds

namespace Duration

theorem le_iff {a b : Duration} : a ≤ b ↔ a.toNanos ≤ b.toNanos := Iff.rfl

theorem lt_iff {a b : Duration} : a < b ↔ a.toNanos < b.toNanos := Iff.rfl

theorem max_toNanos_lt : Duration.max.toNanos < 2 ^ 64 * 1000000000 := by decide

theorem isZero_saturatingSub {a b : Duration} : (a.saturatingSub b).isZero = true ↔ a ≤ b := by
  simp only [isZero, saturatingSub, beq_iff_eq, le_iff]
  omega

end Duration

namespace Instant

/-- The whole milliseconds from `a` to `b` as a duration; none when `b` is not later. -/
def millisSince (a b : Instant) : Duration := Duration.ofMillis (millisBetween a b).toNat

theorem elapsedSecs_millisSince (a b : Instant) :
    (elapsedSecs a b : ℚ) = ((millisSince a b).toNanos : ℚ) / 1000000000 := by
  rw [elapsedSecs_rat]
  simp only [millisSince, Duration.ofMillis, Nat.cast_mul]
  split
  · rename_i hms
    simp [Int.toNat_eq_zero.2 hms]
  · rename_i hms
    have hcast : ((millisBetween a b).toNat : ℚ) = millisBetween a b := by
      exact_mod_cast Int.toNat_of_nonneg (by omega)
    rw [hcast]
    ring

theorem toDuration?_elapsedSecs (a b : Instant) :
    CooldownSeconds.toDuration? (elapsedSecs a b : ℚ) =
      if (millisSince a b).toNanos < 2 ^ 64 * 1000000000 then .ok (millisSince a b)
      else .error .tooBigOrNan := by
  have hpos : (0 : ℚ) < 1000000000 := by norm_num
  rw [CooldownSeconds.toDuration?_rat, elapsedSecs_millisSince]
  have hnonneg : ¬ ((millisSince a b).toNanos : ℚ) / 1000000000 < 0 := not_lt.2 (by positivity)
  have hbound : (2 : ℚ) ^ 64 ≤ ((millisSince a b).toNanos : ℚ) / 1000000000 ↔
      2 ^ 64 * 1000000000 ≤ (millisSince a b).toNanos := by
    rw [le_div_iff₀ hpos]
    exact_mod_cast Iff.rfl
  rw [if_neg hnonneg]
  by_cases hsmall : (millisSince a b).toNanos < 2 ^ 64 * 1000000000
  · rw [if_neg (by rw [hbound]; omega), if_pos hsmall, div_mul_cancel₀ _ hpos.ne', round_natCast,
      Int.toNat_natCast]
  · rw [if_pos (by rw [hbound]; omega), if_neg hsmall]

end Instant

namespace BreakerState

variable {s : BreakerState} {config : BreakerConfig} {now : Instant}

theorem cooldownLeft_exact {f : Instant} (hf : s.lastFailureAt = some f)
    (hmax : config.recoveryTimeout ≤ Duration.max) :
    s.cooldownLeft config now ℚ = config.recoveryTimeout.saturatingSub (Instant.millisSince f now) := by
  simp only [cooldownLeft, hf, Instant.toDuration?_elapsedSecs]
  by_cases hsmall : (Instant.millisSince f now).toNanos < 2 ^ 64 * 1000000000
  · rw [if_pos hsmall]
  · -- `2^64` seconds or more since the last failure: longer than any recovery timeout
    rw [if_neg hsmall]
    have hmax' := Duration.max_toNanos_lt
    rw [Duration.le_iff] at hmax
    simp only [Duration.saturatingSub, Duration.zero, Duration.mk.injEq]
    omega

theorem probeAbandoned_exact {p : Instant} (hp : s.probeStartedAt = some p) :
    s.probeAbandoned config now ℚ = decide (config.recoveryTimeout ≤ Instant.millisSince p now) := by
  simp only [probeAbandoned, hp, CooldownSeconds.ofDuration_rat, Instant.elapsedSecs_millisSince,
    decide_eq_decide, Duration.le_iff]
  rw [div_le_div_iff_of_pos_right (by norm_num), Nat.cast_le]

theorem permit_of_rejected {α : Type} [CooldownSeconds α] {retryIn : Duration}
    (h : (s.permit config now α).1 = .rejected retryIn) :
    s.permit config now α = (.rejected retryIn, none, s) := by
  unfold permit at h ⊢
  split
  · rename_i hs
    simp only [hs] at h
    cases h
  · rename_i hs
    simp only [hs] at h
    split at h
    · cases h
    · rename_i hleft
      cases h
      rw [if_neg hleft]
  · rename_i hs
    simp only [hs] at h
    split at h
    · cases h
    · rename_i hgo
      cases h
      rw [if_neg hgo]

theorem exists_record_of_rejected {α : Type} [CooldownSeconds α] {t : Keyed BreakerState}
    {name : String} {retryIn : Duration}
    (h : (((t.get? name).getD {}).permit config now α).1 = .rejected retryIn) :
    ∃ s, t.get? name = some s := by
  cases hget : t.get? name with
  | none => simp [hget, permit] at h
  | some s => exact ⟨s, rfl⟩

/-- Counted exactly, an open breaker rejects a call while the whole milliseconds since the last
failure are below the recovery timeout, naming the rest of it as the wait, and otherwise lets a
probe through and turns half-open. -/
theorem permit_open_exact {f : Instant} (hs : s.state = .open) (hf : s.lastFailureAt = some f)
    (hmax : config.recoveryTimeout ≤ Duration.max) :
    s.permit config now ℚ =
      if Instant.millisSince f now < config.recoveryTimeout then
        (.rejected (config.recoveryTimeout.saturatingSub (Instant.millisSince f now)), none, s)
      else
        (.probe, some ⟨.open, .halfOpen⟩,
          { s with state := .halfOpen, probeStartedAt := some now }) := by
  simp only [permit, hs, cooldownLeft_exact hf hmax]
  by_cases hlt : Instant.millisSince f now < config.recoveryTimeout
  · have hleft : (config.recoveryTimeout.saturatingSub (Instant.millisSince f now)).isZero = false := by
      rw [Bool.eq_false_iff, ne_eq, Duration.isZero_saturatingSub, Duration.le_iff]
      rw [Duration.lt_iff] at hlt
      omega
    rw [if_pos hlt, hleft]
    rfl
  · have hleft : (config.recoveryTimeout.saturatingSub (Instant.millisSince f now)).isZero = true := by
      rw [Duration.isZero_saturatingSub, Duration.le_iff]
      rw [Duration.lt_iff] at hlt
      omega
    rw [if_neg hlt, hleft]
    rfl

/-- Counted exactly, a half-open breaker whose probe started at `p` rejects every other call,
naming no wait, while the whole milliseconds since `p` are below the recovery timeout, and
otherwise takes the caller as the new probe. -/
theorem permit_halfOpen_exact {p : Instant} (hs : s.state = .halfOpen)
    (hp : s.probeStartedAt = some p) :
    s.permit config now ℚ =
      if Instant.millisSince p now < config.recoveryTimeout then (.rejected Duration.zero, none, s)
      else (.probe, none, { s with probeStartedAt := some now }) := by
  simp only [permit, hs, hp, probeAbandoned_exact hp, Option.isNone_some, Bool.false_or]
  by_cases hlt : Instant.millisSince p now < config.recoveryTimeout
  · have hgo : decide (config.recoveryTimeout ≤ Instant.millisSince p now) = false := by
      rw [decide_eq_false_iff_not, Duration.le_iff]
      rw [Duration.lt_iff] at hlt
      omega
    rw [if_pos hlt, hgo]
    rfl
  · have hgo : decide (config.recoveryTimeout ≤ Instant.millisSince p now) = true := by
      rw [decide_eq_true_iff, Duration.le_iff]
      rw [Duration.lt_iff] at hlt
      omega
    rw [if_neg hlt, hgo]
    rfl

end BreakerState

/-! ## Runs of a store update -/

namespace Action

open Proc

variable {α : Type}

theorem exec_awaitStore {r r' : Except AgentError α} {z y : World}
    (h : Exec z (awaitStore r) y (.pure r')) : r' = r := by
  unfold awaitStore at h
  simp only [bind_eq, pure_eq] at h
  obtain ⟨u, d, -, hk⟩ := Exec.of_bind_pure h
  split at hk
  · exact Exec.eq_of_bind_const hk
  · exact Exec.eq_of_pure hk

theorem exec_update {f : Store → Except AgentError (α × Store)} {x y : World}
    {res : Except AgentError α} (h : Exec x (update f) y (.pure res)) :
    ∃ v, (∃ a st, f v.store = .ok (a, st) ∧ res = .ok a ∧
        Exec { v with store := st } (awaitStore res) y (.pure res)) ∨
      (∃ e, f v.store = .error e ∧ res = .error e ∧ Exec v (awaitStore res) y (.pure res)) := by
  unfold update at h
  simp only [bind_eq] at h
  obtain ⟨z, r₀, hchange, hwait⟩ := Exec.of_bind_pure h
  obtain ⟨v, hv⟩ := Exec.of_read hchange
  have hr : res = r₀ := exec_awaitStore hwait
  subst hr
  refine ⟨v, ?_⟩
  cases hf : f v.store with
  | ok x =>
    obtain ⟨a, st⟩ := x
    simp only [hf] at hv
    obtain ⟨rfl, hq⟩ := Exec.of_pure (Exec.of_write hv)
    cases hq
    exact .inl ⟨a, st, rfl, rfl, hwait⟩
  | error e =>
    simp only [hf] at hv
    obtain ⟨rfl, hq⟩ := Exec.of_pure (Exec.of_write hv)
    cases hq
    exact .inr ⟨e, rfl, rfl, hwait⟩
end Action


/-! ## A rejected call -/

namespace CircuitBreaker

open Proc ResilientAgent.Action

variable {β : Type} {w w' : World} {q : Action β}

theorem turn_admission_bind (b : CircuitBreaker) (hmem : w.store.backend = .memory)
    {adm : Admission} {s' : BreakerState}
    (hpermit : ((w.store.breakers.get? b.name).getD {}).permit b.config w.now = (adm, none, s'))
    (k : Except AgentError Admission → Action β) :
    Turn w (b.admission.bind k) w' q ↔
      Turn { w with store := { w.store with breakers := w.store.breakers.put b.name s' } }
        (k (.ok adm)) w' q := by
  have hupdate : w.store.updateBreaker b.name (fun s =>
      (((s.permit b.config w.now).1, (s.permit b.config w.now).2.1), (s.permit b.config w.now).2.2)) =
      .ok (((adm, none), s'), { w.store with breakers := w.store.breakers.put b.name s' }) := by
    simp [Store.updateBreaker, Store.available_of_memory hmem, hpermit]
  simp only [admission, bind_eq, bind_assoc]
  rw [turn_now_bind, turn_update_bind hupdate (by exact hmem)]
  simp only [report, pure_eq]
  exact Iff.rfl

/-- With the store in memory, a call the breaker rejects is over in one turn: the operation
never runs, the breaker's record is written back as it was, the rejection is recorded, and the
call fails with `CircuitOpen` naming the wait. -/
theorem turn_call_of_rejected {α : Type} (b : CircuitBreaker) (op : Action (Except Fault α))
    {q : Action (Except Fault α)} (hmem : w.store.backend = .memory) {retryIn : Duration}
    (hrej : (((w.store.breakers.get? b.name).getD {}).permit b.config w.now).1 = .rejected retryIn) :
    Turn w (b.call op) w' q ↔
      w' = World.recordEvent
        { w with
          store :=
            { w.store with
              breakers := w.store.breakers.put b.name ((w.store.breakers.get? b.name).getD {}) } }
        (.breakerRejected b.name) ∧
      q = .pure (.error (.agent (.circuitOpen b.name retryIn))) := by
  simp only [call, bind_eq]
  rw [turn_admission_bind b hmem (BreakerState.permit_of_rejected hrej)]
  simp only [turn_record_bind, pure_eq, turn_pure]

theorem exec_admission (b : CircuitBreaker) {w u : World} {a : Except AgentError Admission}
    (h : Exec w b.admission u (.pure a)) :
    ∃ (t : Instant) (x v : World), Exec w Action.now x (.pure t) ∧
      ∀ (adm : Admission) (tr : Option Transition) (s' : BreakerState), v.store.available = .ok () →
        ((v.store.breakers.get? b.name).getD {}).permit b.config t = (adm, tr, s') →
        a = .ok adm ∧ ∃ y, Exec { v with store := { v.store with breakers := v.store.breakers.put b.name s' } }
          (Action.awaitStore (.ok ((adm, tr), s'))) y (.pure (.ok ((adm, tr), s'))) ∧
          Exec y (b.report tr) u (.pure ()) := by
  unfold admission at h
  simp only [bind_eq] at h
  obtain ⟨x, t, hnow, hrest⟩ := Exec.of_bind_pure h
  obtain ⟨y, res, hupdate, hanswer⟩ := Exec.of_bind_pure hrest
  obtain ⟨v, hv⟩ := Action.exec_update hupdate
  refine ⟨t, x, v, hnow, fun adm tr s' havail hpermit => ?_⟩
  have hf : v.store.updateBreaker b.name (fun s =>
      (((s.permit b.config t).1, (s.permit b.config t).2.1), (s.permit b.config t).2.2)) =
      .ok (((adm, tr), s'), { v.store with breakers := v.store.breakers.put b.name s' }) := by
    simp [Store.updateBreaker, havail, hpermit]
  rcases hv with ⟨a', st, hok, rfl, hwait⟩ | ⟨e, herr, rfl, -⟩
  · rw [hf] at hok
    obtain ⟨rfl, rfl⟩ := Prod.mk.inj (Except.ok.inj hok)
    simp only [pure_eq] at hanswer
    obtain ⟨u₁, _, hreport, hdone⟩ := Exec.of_bind_pure hanswer
    obtain ⟨rfl, hq⟩ := Exec.of_pure hdone
    cases hq
    exact ⟨rfl, y, hwait, hreport⟩
  · rw [hf] at herr
    cases herr

theorem exec_call_of_rejected (b : CircuitBreaker) {α : Type} (op : Action (Except Fault α)) {w w' : World}
    {r : Except Fault α} (h : Exec w (b.call op) w' (.pure r)) :
    ∃ (t : Instant) (x v : World), Exec w Action.now x (.pure t) ∧
      ∀ retryIn, v.store.available = .ok () →
        (((v.store.breakers.get? b.name).getD {}).permit b.config t).1 = .rejected retryIn →
        ∃ y, Exec
            { v with
              store.breakers := v.store.breakers.put b.name ((v.store.breakers.get? b.name).getD {}) }
            (Action.awaitStore (.ok ((Admission.rejected retryIn, (none : Option Transition)),
              (v.store.breakers.get? b.name).getD {})))
            y (.pure (.ok ((Admission.rejected retryIn, none), (v.store.breakers.get? b.name).getD {}))) ∧
          Exec y (Action.record (.breakerRejected b.name)) w' (.pure ()) ∧
          r = .error (.agent (.circuitOpen b.name retryIn)) := by
  unfold call at h
  simp only [bind_eq] at h
  obtain ⟨u, a, hadmission, hrest⟩ := Exec.of_bind_pure h
  obtain ⟨t, x, v, hnow, hdecision⟩ := b.exec_admission hadmission
  refine ⟨t, x, v, hnow, fun retryIn havail hrej => ?_⟩
  obtain ⟨rfl, y, hwait, hreport⟩ := hdecision _ _ _ havail (BreakerState.permit_of_rejected hrej)
  simp only [report, pure_eq] at hreport
  have hu : u = y := (Exec.of_pure hreport).1
  rw [hu] at hrest
  simp only [pure_eq] at hrest
  obtain ⟨u', _, hrecord, hdone⟩ := Exec.of_bind_pure hrest
  obtain ⟨rfl, hq⟩ := Exec.of_pure hdone
  cases hq
  exact ⟨y, hwait, hrecord, rfl⟩

/-- An admission that answered a rejection, among any other processes, decided on a record the
store held, which rejects, and wrote that record back as it was before it waited for the
store. -/
theorem exec_admission_of_rejected (b : CircuitBreaker) {w u : World} {retryIn : Duration}
    (h : Exec w b.admission u (.pure (.ok (.rejected retryIn)))) :
    ∃ (t : Instant) (v : World) (s : BreakerState), v.store.breakers.get? b.name = some s ∧
      s.permit b.config t = (.rejected retryIn, none, s) ∧
      Exec { v with store := { v.store with breakers := v.store.breakers.put b.name s } }
        (Action.awaitStore (.ok ((Admission.rejected retryIn, (none : Option Transition)), s)))
        u (.pure (.ok ((Admission.rejected retryIn, none), s))) := by
  unfold admission at h
  simp only [bind_eq] at h
  obtain ⟨x, t, -, hrest⟩ := Exec.of_bind_pure h
  obtain ⟨y, res, hupdate, hanswer⟩ := Exec.of_bind_pure hrest
  obtain ⟨v, hv⟩ := Action.exec_update hupdate
  rcases hv with ⟨a, st, hok, rfl, hwait⟩ | ⟨e, -, rfl, -⟩
  · cases havail : v.store.available with
    | error e => simp [Store.updateBreaker, havail] at hok
    | ok _ =>
      rcases hP : ((v.store.breakers.get? b.name).getD {}).permit b.config t with ⟨adm, tr, s'⟩
      have hf : v.store.updateBreaker b.name (fun s =>
          (((s.permit b.config t).1, (s.permit b.config t).2.1), (s.permit b.config t).2.2)) =
          .ok (((adm, tr), s'), { v.store with breakers := v.store.breakers.put b.name s' }) := by
        simp [Store.updateBreaker, havail, hP]
      rw [hf] at hok
      obtain ⟨rfl, rfl⟩ := Prod.mk.inj (Except.ok.inj hok)
      simp only [pure_eq] at hanswer
      obtain ⟨u₁, _, hreport, hdone⟩ := Exec.of_bind_pure hanswer
      obtain ⟨rfl, hq⟩ := Exec.of_pure hdone
      cases hq
      have hrej : (((v.store.breakers.get? b.name).getD {}).permit b.config t).1 =
          .rejected retryIn := by
        rw [hP]
      obtain ⟨s, hget⟩ := BreakerState.exists_record_of_rejected hrej
      have hpermit := BreakerState.permit_of_rejected hrej
      rw [hP, hget, Option.getD_some] at hpermit
      obtain ⟨rfl, rfl⟩ := Prod.mk.inj (Prod.mk.inj hpermit).2
      obtain ⟨rfl, -⟩ := Exec.of_pure hreport
      rw [hget, Option.getD_some] at hP
      exact ⟨t, v, s', hget, hP, hwait⟩
  · simp only [pure_eq] at hanswer
    cases Exec.eq_of_pure hanswer

/-- A run of a call among any other processes is its admission and then the rest; when the
admission rejects, the rest only records the rejection and fails with `CircuitOpen`. -/
theorem exec_call_split (b : CircuitBreaker) {α : Type} (op : Action (Except Fault α))
    {w w' : World} {r : Except Fault α} (h : Exec w (b.call op) w' (.pure r)) :
    ∃ u a, Exec w b.admission u (.pure a) ∧ ∀ retryIn, a = .ok (.rejected retryIn) →
      Exec u (Action.record (.breakerRejected b.name)) w' (.pure ()) ∧
        r = .error (.agent (.circuitOpen b.name retryIn)) := by
  unfold call at h
  simp only [bind_eq] at h
  obtain ⟨u, a, hadmission, hrest⟩ := Exec.of_bind_pure h
  refine ⟨u, a, hadmission, fun retryIn ha => ?_⟩
  subst ha
  simp only [pure_eq] at hrest
  obtain ⟨u', _, hrecord, hdone⟩ := Exec.of_bind_pure hrest
  obtain ⟨rfl, hq⟩ := Exec.of_pure hdone
  cases hq
  exact ⟨hrecord, rfl⟩

end CircuitBreaker

/-- Counted exactly, a breaker admits by its cooldown to the millisecond, and a rejected call
never runs. An open breaker, in any state its admissions and records can reach, rejects while
the whole milliseconds since its last failure are below the recovery timeout, naming the rest of
the timeout as the wait and changing nothing, and otherwise lets a probe through and turns
half-open with the probe started now. A half-open breaker with a probe out rejects, naming no
wait, while the probe is younger than the recovery timeout. A call the breaker rejects never runs
its operation: with the store in memory, its one turn leaves the breaker's record as it was,
records the rejection once and fails with `CircuitOpen` and the wait. With either store, among
any other processes, a run of the call is its admission and then the rest; an admission that
rejects decided on the record the store held, wrote it back as it was and waited for the store,
and the rest records the rejection once and fails with `CircuitOpen` and the wait. -/
theorem breaker_admits_by_exact_cooldown (config : BreakerConfig)
    (hmax : config.recoveryTimeout ≤ Duration.max) :
    (∀ (s : BreakerState) (now : Instant), s.Coherent config → s.state = .open →
      ∃ f, s.lastFailureAt = some f ∧
        s.permit config now ℚ =
          if Instant.millisSince f now < config.recoveryTimeout then
            (.rejected (config.recoveryTimeout.saturatingSub (Instant.millisSince f now)), none, s)
          else
            (.probe, some ⟨.open, .halfOpen⟩,
              { s with state := .halfOpen, probeStartedAt := some now })) ∧
    (∀ (s : BreakerState) (p now : Instant), s.state = .halfOpen → s.probeStartedAt = some p →
      s.permit config now ℚ =
        if Instant.millisSince p now < config.recoveryTimeout then
          (.rejected Duration.zero, none, s)
        else (.probe, none, { s with probeStartedAt := some now })) ∧
    (∀ (b : CircuitBreaker) {α : Type} (op : Action (Except Fault α)) (w w' : World)
      (q : Action (Except Fault α)) (retryIn : Duration), w.store.backend = .memory →
      (((w.store.breakers.get? b.name).getD {}).permit b.config w.now).1 = .rejected retryIn →
      (w.store.breakers.put b.name ((w.store.breakers.get? b.name).getD {})).get? b.name =
          w.store.breakers.get? b.name ∧
        (Proc.Turn w (b.call op) w' q ↔
          w' = World.recordEvent
            { w with
              store :=
                { w.store with
                  breakers :=
                    w.store.breakers.put b.name ((w.store.breakers.get? b.name).getD {}) } }
            (.breakerRejected b.name) ∧
          q = .pure (.error (.agent (.circuitOpen b.name retryIn))))) ∧
    (∀ (b : CircuitBreaker) {α : Type} (op : Action (Except Fault α)) (w w' : World)
      (r : Except Fault α), Proc.Exec w (b.call op) w' (.pure r) →
      ∃ (t : Instant) (x v : World), Proc.Exec w Action.now x (.pure t) ∧
        ∀ retryIn, v.store.available = .ok () →
          (((v.store.breakers.get? b.name).getD {}).permit b.config t).1 = .rejected retryIn →
          ∃ y, Proc.Exec
              { v with
                store.breakers := v.store.breakers.put b.name ((v.store.breakers.get? b.name).getD {}) }
              (Action.awaitStore (.ok ((Admission.rejected retryIn, (none : Option Transition)),
                (v.store.breakers.get? b.name).getD {})))
              y (.pure (.ok ((Admission.rejected retryIn, none), (v.store.breakers.get? b.name).getD {}))) ∧
            Proc.Exec y (Action.record (.breakerRejected b.name)) w' (.pure ()) ∧
            r = .error (.agent (.circuitOpen b.name retryIn))) ∧
    (∀ (b : CircuitBreaker) {α : Type} (op : Action (Except Fault α)) (w w' : World)
      (r : Except Fault α), Proc.Exec w (b.call op) w' (.pure r) →
      ∃ u a, Proc.Exec w b.admission u (.pure a) ∧ ∀ retryIn, a = .ok (.rejected retryIn) →
        (∃ (t : Instant) (v : World) (s : BreakerState), v.store.breakers.get? b.name = some s ∧
          s.permit b.config t = (.rejected retryIn, none, s) ∧
          Proc.Exec { v with store := { v.store with breakers := v.store.breakers.put b.name s } }
            (Action.awaitStore (.ok ((Admission.rejected retryIn, (none : Option Transition)), s)))
            u (.pure (.ok ((Admission.rejected retryIn, none), s)))) ∧
        Proc.Exec u (Action.record (.breakerRejected b.name)) w' (.pure ()) ∧
        r = .error (.agent (.circuitOpen b.name retryIn))) := by
  refine ⟨fun s now hc hs => ?_, fun s p now hs hp => BreakerState.permit_halfOpen_exact hs hp,
    fun b α op w w' q retryIn hmem hrej => ⟨?_, CircuitBreaker.turn_call_of_rejected b op hmem hrej⟩,
    fun b α op w w' r h => b.exec_call_of_rejected op h, fun b α op w w' r h => ?_⟩
  · -- a breaker that is not closed knows when it last failed
    obtain ⟨f, hf⟩ := Option.isSome_iff_exists.1 (hc.lastFailure_of_ne_closed (by simp [hs]))
    exact ⟨f, hf, BreakerState.permit_open_exact hs hf hmax⟩
  · obtain ⟨s, hget⟩ := BreakerState.exists_record_of_rejected hrej
    rw [hget, Option.getD_some, Keyed.get?_put_self]
  · obtain ⟨u, a, hadmission, hrest⟩ := b.exec_call_split op h
    refine ⟨u, a, hadmission, fun retryIn ha => ?_⟩
    subst ha
    exact ⟨b.exec_admission_of_rejected hadmission, hrest retryIn rfl⟩

/-- A breaker with a ten-second recovery timeout, open since a failure at the epoch: a
millisecond before the timeout it rejects with a millisecond to wait, and at the timeout it lets
a probe through. -/
theorem ten_second_cooldown_to_the_millisecond :
    Duration.ofSecs 10 ≤ Duration.max ∧
      ({ state := .open, consecutiveFailures := 5, lastFailureAt := some Instant.scriptEpoch } :
          BreakerState).permit { recoveryTimeout := Duration.ofSecs 10 }
          (Instant.scriptEpoch.addMillis 9999) ℚ =
        (.rejected (Duration.ofMillis 1), none,
          { state := .open, consecutiveFailures := 5, lastFailureAt := some Instant.scriptEpoch }) ∧
      ({ state := .open, consecutiveFailures := 5, lastFailureAt := some Instant.scriptEpoch } :
          BreakerState).permit { recoveryTimeout := Duration.ofSecs 10 }
          (Instant.scriptEpoch.addMillis 10000) ℚ =
        (.probe, some ⟨.open, .halfOpen⟩,
          { state := .halfOpen, consecutiveFailures := 5, lastFailureAt := some Instant.scriptEpoch,
            probeStartedAt := some (Instant.scriptEpoch.addMillis 10000) }) := by
  have hmax : Duration.ofSecs 10 ≤ Duration.max := by decide
  have hopen := (breaker_admits_by_exact_cooldown { recoveryTimeout := Duration.ofSecs 10 } hmax).1
  have hc : ({ state := .open, consecutiveFailures := 5, lastFailureAt := some Instant.scriptEpoch } :
      BreakerState).Coherent { recoveryTimeout := Duration.ofSecs 10 } :=
    ⟨by simp, by simp, by simp⟩
  obtain ⟨f₁, hf₁, hearly⟩ := hopen _ (Instant.scriptEpoch.addMillis 9999) hc rfl
  obtain ⟨f₂, hf₂, hlate⟩ := hopen _ (Instant.scriptEpoch.addMillis 10000) hc rfl
  cases hf₁
  cases hf₂
  refine ⟨hmax, ?_, ?_⟩
  · rw [hearly]
    decide
  · rw [hlate]
    decide

end ResilientAgent
