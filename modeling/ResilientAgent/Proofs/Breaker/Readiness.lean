import ResilientAgent.Proofs.Breaker.Admission
import ResilientAgent.Proofs.Time.Deadlines
import ResilientAgent.Proofs.Time.FloatSeconds
import ResilientAgent.Server.Api

/-!
# Readiness and the model's breaker

`GET /health/ready` holds the model's circuit as failing while its breaker is open and still
cooling down. It works the cooldown out on its own: the last failure plus the recovery time,
saturating at the last representable instant, compared with the clock to the nanosecond
(`BreakerState.readiness`, read off the check in `HealthCheck.turn_modelCircuit`). The breaker
itself counts whole milliseconds since the last failure, and none while the clock is behind it.

Counted exactly, the two agree when the recovery time is a positive whole number of milliseconds
and the clock is short of the last instant (`BreakerState.readiness_agrees_exactly`), since
whole milliseconds reach a whole number of them exactly when the exact time does
(`Instant.millisSince_lt_iff`). The running breaker counts in float seconds, and these are the
exact milliseconds while they stay under `2^23` seconds; past that both count the cooldown over,
so for a recovery time under `2^23` seconds the float breaker is the exact one
(`BreakerState.permit_open_float`), and the check follows it
(`BreakerState.readiness_agrees`).

A recovery time with a fraction of a millisecond parts them: in the last fraction of the
cooldown the check passes while the breaker still rejects. So does a recovery time of `2^23`
seconds or more, where the float seconds may read a nanosecond short
(`readiness_passes_while_breaker_rejects`).
-/

namespace ResilientAgent

open Proc

/-- The verdict of the readiness check on the model's circuit, from its breaker's record at
`now`: failing with the time left while the breaker is open and its last failure plus the
recovery time is still ahead, passing otherwise. -/
def BreakerState.readiness (s : BreakerState) (recovery : Duration) (now : Instant) :
    Except AgentError Unit :=
  if s.state != .open then .ok ()
  else
    match s.lastFailureAt.map (·.add recovery) with
    | some reopens =>
      if now.sinceEpoch < reopens.sinceEpoch then
        .error (.circuitOpen modelDependency ⟨(reopens.sinceEpoch - now.sinceEpoch).toNat⟩)
      else .ok ()
    | none => .ok ()

/-- With the store in memory the check of the model's circuit is one turn that reads the
breaker's record and the clock and changes nothing. -/
theorem HealthCheck.turn_modelCircuit {w w' : World} {q : Action (Except AgentError Unit)}
    (breakers : BreakerRegistry) (recovery : Duration) (hmem : w.store.backend = .memory) :
    Turn w (HealthCheck.modelCircuit breakers recovery).run w' q ↔
      w' = w ∧
        q = .pure (((w.store.breakers.get? modelDependency).getD {}).readiness recovery w.now) := by
  simp only [HealthCheck.run, CircuitBreaker.state, bind_eq]
  rw [Action.turn_inspect_bind hmem]
  have hrecord : (w.store.breaker? (breakers.get modelDependency).name).map (·.getD {}) =
      .ok ((w.store.breakers.get? modelDependency).getD {}) := by
    simp [Store.breaker?, Store.available_of_memory hmem, BreakerRegistry.get]
    rfl
  rw [hrecord]
  generalize (w.store.breakers.get? modelDependency).getD {} = s
  unfold BreakerState.readiness
  by_cases hs : s.state = .open
  · simp only [hs, bne_self_eq_false, Bool.false_eq_true, if_false, Action.turn_now_bind]
    cases s.lastFailureAt with
    | none => simp [turn_pure]
    | some f =>
      simp only [Option.map_some]
      split_ifs <;> simp [turn_pure]
  · simp [hs, turn_pure]

namespace BreakerState

variable {s : BreakerState} {recovery : Duration} {now : Instant}

theorem readiness_eq_ok_iff :
    s.readiness recovery now = .ok () ↔
      ¬ (s.state = .open ∧
        ∃ f, s.lastFailureAt = some f ∧ now.sinceEpoch < (f.add recovery).sinceEpoch) := by
  unfold readiness
  by_cases hs : s.state = .open
  · cases hf : s.lastFailureAt with
    | none => simp [hs]
    | some f =>
      by_cases hlt : now.sinceEpoch < (f.add recovery).sinceEpoch <;> simp [hs, hlt]
  · simp [hs]

end BreakerState

/-- Whole milliseconds since `f` fall short of a positive whole number of milliseconds exactly
when the clock is before `f` plus that time: the milliseconds are rounded down, and none are
counted while the clock is behind `f`. -/
theorem Instant.millisSince_lt_iff {f now : Instant} {d : Duration} (hwhole : d.WholeMillis)
    (hpos : 0 < d.toNanos) :
    millisSince f now < d ↔ now.sinceEpoch < f.sinceEpoch + d.toNanos := by
  rw [Duration.lt_iff]
  simp only [millisSince, Duration.toNanos_ofMillis, millisBetween]
  unfold Duration.WholeMillis at hwhole
  by_cases hle : f.sinceEpoch ≤ now.sinceEpoch
  · rw [Int.tdiv_eq_ediv_of_nonneg (by omega)]
    omega
  · -- behind the last failure the milliseconds round toward zero, to none
    have hback := Int.tdiv_nonneg (a := f.sinceEpoch - now.sinceEpoch) (b := 1000000) (by omega)
      (by decide)
    rw [show f.sinceEpoch - now.sinceEpoch = -(now.sinceEpoch - f.sinceEpoch) by omega,
      Int.neg_tdiv] at hback
    omega

theorem Duration.le_max_of_short {d : Duration} (hshort : d.toNanos < 8388608 * 1000000000) :
    d ≤ Duration.max := by
  rw [Duration.le_iff]
  have : 8388608 * 1000000000 ≤ Duration.max.toNanos := by decide
  omega

namespace BreakerState

variable {s : BreakerState} {config : BreakerConfig} {now : Instant}

/-- Counted exactly, the check and the breaker agree when the recovery time is a positive whole
number of milliseconds and the clock is short of the last representable instant: the check
fails exactly when the breaker is open and rejects a call now. An open breaker with no known
failure is no exception: the check passes and the breaker lets a probe through. -/
theorem readiness_agrees_exactly (hwhole : config.recoveryTimeout.WholeMillis)
    (hpos : 0 < config.recoveryTimeout.toNanos) (hmax : config.recoveryTimeout ≤ Duration.max)
    (hnow : now.sinceEpoch < Instant.maxUtc.sinceEpoch) :
    s.readiness config.recoveryTimeout now ≠ .ok () ↔
      s.state = .open ∧ ∃ d, (s.permit config now ℚ).1 = .rejected d := by
  rw [ne_eq, readiness_eq_ok_iff, not_not]
  by_cases hs : s.state = .open
  · cases hf : s.lastFailureAt with
    | none =>
      simp [permit, hs, cooldownLeft, hf, Duration.isZero, Duration.zero]
    | some f =>
      rw [permit_open_exact hs hf hmax]
      have hcool : now.sinceEpoch < (f.add config.recoveryTimeout).sinceEpoch ↔
          Instant.millisSince f now < config.recoveryTimeout := by
        rw [Instant.lt_add_iff, Instant.millisSince_lt_iff hwhole hpos]
        omega
      by_cases hlt : Instant.millisSince f now < config.recoveryTimeout
      · simp [hs, hlt, hcool.2 hlt]
      · simp [hs, hlt, mt hcool.1 hlt]
  · simp [hs]

theorem cooldownLeft_of_toDuration? {α : Type} [CooldownSeconds α] {f : Instant} {d : Duration}
    (hf : s.lastFailureAt = some f)
    (hd : CooldownSeconds.toDuration? (Instant.elapsedSecs f now : α) = .ok d) :
    s.cooldownLeft config now α = config.recoveryTimeout.saturatingSub d := by
  simp only [cooldownLeft, hf, hd]

theorem cooldownLeft_float {f : Instant} (hf : s.lastFailureAt = some f)
    (hshort : config.recoveryTimeout.toNanos < 8388608 * 1000000000)
    (hspan : Instant.millisBetween f now < 2 ^ 54) :
    s.cooldownLeft config now = s.cooldownLeft config now ℚ := by
  rw [cooldownLeft_exact hf (Duration.le_max_of_short hshort)]
  by_cases hsmall : Instant.millisBetween f now < 8388608000
  · rw [cooldownLeft_of_toDuration? hf (Instant.ofSecsFloat?_elapsedSecs_of_lt hsmall)]
    rfl
  · -- `2^23` seconds or more since the last failure, read either way, outlast the recovery time
    obtain ⟨d, hd, hlong⟩ := Instant.ofSecsFloat?_elapsedSecs_of_ge (by omega) hspan
    rw [cooldownLeft_of_toDuration? hf hd]
    simp only [Duration.saturatingSub, Instant.millisSince, Duration.ofMillis, Duration.mk.injEq]
    omega

/-- An open breaker admits by its cooldown alone, so where the float cooldown is the exact one
the float breaker admits as the exact one does. -/
theorem permit_open_float (hs : s.state = .open)
    (hshort : config.recoveryTimeout.toNanos < 8388608 * 1000000000)
    (hspan : ∀ f, s.lastFailureAt = some f → Instant.millisBetween f now < 2 ^ 54) :
    s.permit config now = s.permit config now ℚ := by
  have hcool : s.cooldownLeft config now = s.cooldownLeft config now ℚ := by
    cases hf : s.lastFailureAt with
    | none => simp [cooldownLeft, hf]
    | some f => exact cooldownLeft_float hf hshort (hspan f hf)
  simp only [permit, hs, hcool]

/-- The check and the running breaker agree when the recovery time is a positive whole number of
milliseconds under `2^23` seconds, the clock is short of the last representable instant and the
last failure is no earlier than the first: the check fails exactly when the breaker is open and
rejects a call now. -/
theorem readiness_agrees (hwhole : config.recoveryTimeout.WholeMillis)
    (hpos : 0 < config.recoveryTimeout.toNanos)
    (hshort : config.recoveryTimeout.toNanos < 8388608 * 1000000000)
    (hnow : now.sinceEpoch < Instant.maxUtc.sinceEpoch)
    (hfailed : ∀ f, s.lastFailureAt = some f → Instant.minUtc.sinceEpoch ≤ f.sinceEpoch) :
    s.readiness config.recoveryTimeout now ≠ .ok () ↔
      s.state = .open ∧ ∃ d, (s.permit config now).1 = .rejected d := by
  rw [readiness_agrees_exactly hwhole hpos (Duration.le_max_of_short hshort) hnow]
  by_cases hs : s.state = .open
  · rw [permit_open_float hs hshort fun f hf =>
      Instant.millisBetween_lt_of_representable (hfailed f hf) hnow]
  · simp [hs]

end BreakerState

/-- The readiness check on the model's circuit follows its running breaker when the breaker's
recovery time is a positive whole number of milliseconds under `2^23` seconds, the clock is
short of the last representable instant and the last failure is no earlier than the first. With
the store in memory the check reads the breaker's record and the clock in one turn and changes
nothing; it fails exactly when the breaker is open and would reject a call admitted now. -/
theorem readiness_follows_breaker_cooldown (breakers : BreakerRegistry) (w : World)
    (hmem : w.store.backend = .memory)
    (hwhole : (breakers.get modelDependency).config.recoveryTimeout.WholeMillis)
    (hpos : 0 < (breakers.get modelDependency).config.recoveryTimeout.toNanos)
    (hshort : (breakers.get modelDependency).config.recoveryTimeout.toNanos <
      8388608 * 1000000000)
    (hnow : w.now.sinceEpoch < Instant.maxUtc.sinceEpoch)
    (hfailed : ∀ f, ((w.store.breakers.get? modelDependency).getD {}).lastFailureAt = some f →
      Instant.minUtc.sinceEpoch ≤ f.sinceEpoch) :
    let config := (breakers.get modelDependency).config
    let record := (w.store.breakers.get? modelDependency).getD {}
    (∀ w' q, Turn w (HealthCheck.modelCircuit breakers config.recoveryTimeout).run w' q ↔
      w' = w ∧ q = .pure (record.readiness config.recoveryTimeout w.now)) ∧
      (record.readiness config.recoveryTimeout w.now ≠ .ok () ↔
        record.state = .open ∧ ∃ d, (record.permit config w.now).1 = .rejected d) :=
  ⟨fun _ _ => HealthCheck.turn_modelCircuit breakers _ hmem,
    BreakerState.readiness_agrees hwhole hpos hshort hnow hfailed⟩

/-- The model's breaker opened at the epoch of the scripts with the default recovery time of a
minute: a millisecond before the minute is up, the check fails and the breaker rejects. -/
theorem readiness_fails_a_millisecond_before_recovery :
    let breakers : BreakerRegistry := ⟨{}, []⟩
    let tripped : BreakerState :=
      { state := .open, consecutiveFailures := 5, lastFailureAt := some Instant.scriptEpoch }
    let w : World :=
      { manual := Instant.scriptEpoch.addMillis 59999,
        store := { breakers := [(modelDependency, tripped)] } }
    w.store.backend = .memory ∧ (Duration.ofSecs 60).WholeMillis ∧
      0 < (Duration.ofSecs 60).toNanos ∧ (Duration.ofSecs 60).toNanos < 8388608 * 1000000000 ∧
      w.now.sinceEpoch < Instant.maxUtc.sinceEpoch ∧
      Instant.minUtc.sinceEpoch ≤ Instant.scriptEpoch.sinceEpoch ∧
      Turn w (HealthCheck.modelCircuit breakers (Duration.ofSecs 60)).run w
        (.pure (tripped.readiness (Duration.ofSecs 60) w.now)) ∧
      tripped.readiness (Duration.ofSecs 60) w.now ≠ .ok () ∧
      ∃ d, (tripped.permit {} w.now).1 = .rejected d := by
  intro breakers tripped w
  have hnow : w.now.sinceEpoch < Instant.maxUtc.sinceEpoch := by decide
  have hepoch : Instant.minUtc.sinceEpoch ≤ Instant.scriptEpoch.sinceEpoch := by decide
  have hfailed : ∀ f, ((w.store.breakers.get? modelDependency).getD {}).lastFailureAt = some f →
      Instant.minUtc.sinceEpoch ≤ f.sinceEpoch := by
    intro f hf
    cases Option.some.inj (hf : some Instant.scriptEpoch = some f)
    exact hepoch
  obtain ⟨hturn, hagree⟩ := readiness_follows_breaker_cooldown breakers w rfl (by decide)
    (by decide) (by decide) hnow hfailed
  have hfails : tripped.readiness (Duration.ofSecs 60) w.now ≠ .ok () := by
    rw [ne_eq, BreakerState.readiness_eq_ok_iff, not_not]
    exact ⟨rfl, Instant.scriptEpoch, rfl, by decide⟩
  exact ⟨rfl, by decide, by decide, by decide, hnow, hepoch, (hturn w _).2 ⟨rfl, rfl⟩, hfails,
    (hagree.1 hfails).2⟩

/-- Two recovery times part the check from the breaker. Ten seconds and half a millisecond: ten
seconds and six tenths of a millisecond after the model's breaker opened, the check passes,
while the breaker, counting whole milliseconds, still rejects a call with half a millisecond to
wait. And `8388608.006` seconds, a whole number of milliseconds past `2^23` seconds: when
exactly that much time has passed the check passes, while the breaker's float seconds read a
nanosecond short and it rejects a call with a nanosecond to wait. -/
theorem readiness_passes_while_breaker_rejects :
    let tripped : BreakerState :=
      { state := .open, consecutiveFailures := 1, lastFailureAt := some Instant.scriptEpoch }
    let fraction : BreakerConfig := { failureThreshold := 1, recoveryTimeout := ⟨10000500000⟩ }
    let w : World :=
      { manual := ⟨Instant.scriptEpoch.sinceEpoch + 10000600000⟩,
        store := { breakers := [(modelDependency, tripped)] } }
    let long : BreakerConfig :=
      { failureThreshold := 1, recoveryTimeout := Duration.ofMillis 8388608006 }
    let w' : World :=
      { manual := Instant.scriptEpoch.addMillis 8388608006,
        store := { breakers := [(modelDependency, tripped)] } }
    (Turn w (HealthCheck.modelCircuit ⟨fraction, []⟩ fraction.recoveryTimeout).run w
        (.pure (.ok ())) ∧
      (tripped.permit fraction w.now).1 = .rejected ⟨500000⟩) ∧
    (long.recoveryTimeout.WholeMillis ∧
      Turn w' (HealthCheck.modelCircuit ⟨long, []⟩ long.recoveryTimeout).run w' (.pure (.ok ())) ∧
      (tripped.permit long w'.now).1 = .rejected ⟨1⟩) := by
  intro tripped fraction w long w'
  have hpasses : tripped.readiness fraction.recoveryTimeout w.now = .ok () := by
    rw [BreakerState.readiness_eq_ok_iff]
    rintro ⟨-, f, hf, hlt⟩
    cases hf
    revert hlt
    decide
  have hpasses' : tripped.readiness long.recoveryTimeout w'.now = .ok () := by
    rw [BreakerState.readiness_eq_ok_iff]
    rintro ⟨-, f, hf, hlt⟩
    cases hf
    revert hlt
    decide
  refine ⟨⟨(HealthCheck.turn_modelCircuit _ _ rfl).2 ⟨rfl, ?_⟩, by decide⟩,
    by decide, (HealthCheck.turn_modelCircuit _ _ rfl).2 ⟨rfl, ?_⟩, by decide⟩
  · rw [← hpasses]
    rfl
  · rw [← hpasses']
    rfl

end ResilientAgent
