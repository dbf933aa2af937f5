import Mathlib
import ResilientAgent.Proofs.Breaker.Counters
import ResilientAgent.Proofs.Breaker.Probes

/-!
# When a breaker trips

A closed breaker counts the failures recorded since the last success, and opens at the failure
that brings the count to its threshold. This module compares the counter with that count, the
*failure streak* of the records (`failureStreak`), over any sequence of admissions, records and
resets, and shows that an open or half-open breaker has counted at least its threshold.

Both need the report of a probe to reach the breaker while it is still half-open: the record of
a probe's end does not look at the state it lands in. A probe that reports after the breaker has
closed again, because its replacement succeeded or the breaker was reset, opens the closed
breaker on a single failure (`stale_probe_failure_opens_below_threshold`). With every probe
reporting while half-open (`ProbesCurrent`), the breaker opens exactly when the streak reaches
the threshold, and an open or half-open breaker has counted at least the threshold
(`opens_at_threshold`).

Whatever the order of the records, the report of a straggler, a call let through while the
breaker was closed that ends after the breaker opened, changes neither the state nor the instant
of the last failure, so it cannot push out the cooldown.
-/

namespace ResilientAgent

/-- How one step moves the run of failures recorded since the last success or reset: the failure
of a call that was let through lengthens it, a success or a reset ends it, and an admission, an
ignored result or the record of a refused call leaves it. -/
def BreakerStep.streak (n : Nat) : BreakerStep → Nat
  | .record (.rejected _) _ _ => n
  | .record _ .failure _ => n + 1
  | .record _ .success _ => 0
  | .record _ .ignored _ => n
  | .ask _ => n
  | .reset => 0

/-- The failures recorded since the last success or reset. -/
def failureStreak (steps : List BreakerStep) : Nat := steps.foldl BreakerStep.streak 0

theorem failureStreak_append_singleton (steps : List BreakerStep) (e : BreakerStep) :
    failureStreak (steps ++ [e]) = e.streak (failureStreak steps) := by
  simp [failureStreak, List.foldl_append]

/-- Whether a step that records a probe's end lands while the breaker is half-open. -/
def BreakerStep.ReportsCurrentProbe (s : BreakerState) : BreakerStep → Prop
  | .record .probe _ _ => s.state = .halfOpen
  | _ => True

instance BreakerStep.decidableReportsCurrentProbe (s : BreakerState) (e : BreakerStep) :
    Decidable (e.ReportsCurrentProbe s) := by
  cases e with
  | record admission result now =>
    cases admission <;> simp only [ReportsCurrentProbe] <;> infer_instance
  | ask now => exact isTrue trivial
  | reset => exact isTrue trivial

namespace BreakerState

/-- Every probe that reports during the steps, taken from `s`, reports while half-open. -/
def ProbesCurrent (config : BreakerConfig) : BreakerState → List BreakerStep → Prop
  | _, [] => True
  | s, e :: steps => e.ReportsCurrentProbe s ∧ ProbesCurrent config (s.step config e) steps

instance decidableProbesCurrent (config : BreakerConfig) :
    (s : BreakerState) → (steps : List BreakerStep) → Decidable (ProbesCurrent config s steps)
  | _, [] => isTrue trivial
  | s, e :: steps =>
    haveI := decidableProbesCurrent config (s.step config e) steps
    inferInstanceAs (Decidable (_ ∧ _))

theorem probesCurrent_append {config : BreakerConfig} (s : BreakerState)
    (steps more : List BreakerStep) :
    ProbesCurrent config s (steps ++ more) ↔
      ProbesCurrent config s steps ∧ ProbesCurrent config (s.run config steps) more := by
  induction steps generalizing s with
  | nil => simp [ProbesCurrent]
  | cons e steps ih => simp [ProbesCurrent, ih, and_assoc]

theorem run_append (config : BreakerConfig) (s : BreakerState) (steps more : List BreakerStep) :
    s.run config (steps ++ more) = (s.run config steps).run config more :=
  List.foldl_append

/-! ## Records of calls let through -/

variable {config : BreakerConfig} {s : BreakerState}

theorem record_allowed_of_ne_closed (hs : s.state ≠ .closed) (result : CallResult)
    (now : Instant) :
    (s.record config .allowed result now).2.state = s.state ∧
      (s.record config .allowed result now).2.lastFailureAt = s.lastFailureAt := by
  have hne : (s.state == .closed) = false := by simpa using hs
  cases result <;> simp [record, hne]

theorem saturated_failures_eq (n : Nat) (hn : n + 1 < 2 ^ 32) :
    Nat.min (n + 1) (Nat.pow 2 32 - 1) = n + 1 := by
  show min (n + 1) (2 ^ 32 - 1) = n + 1
  omega

theorem le_saturated_failures {threshold n : Nat} (hfits : threshold < 2 ^ 32)
    (hle : threshold ≤ n) : threshold ≤ Nat.min (n + 1) (Nat.pow 2 32 - 1) := by
  show threshold ≤ min (n + 1) (2 ^ 32 - 1)
  omega

theorem record_allowed_failure_of_closed (hfits : config.failureThreshold < 2 ^ 32)
    (hs : s.state = .closed) (hbelow : s.consecutiveFailures < config.failureThreshold)
    (now : Instant) :
    (s.record config .allowed .failure now).2 =
      { s with consecutiveFailures := s.consecutiveFailures + 1, lastFailureAt := some now,
               state := if s.consecutiveFailures + 1 ≥ config.failureThreshold then .open
                 else .closed } := by
  have hroom := saturated_failures_eq s.consecutiveFailures (by omega)
  simp only [record, hs, beq_self_eq_true, if_true, hroom]

/-! ## The count against the streak -/

/-- A closed breaker has counted exactly the failure streak `n`; an open or half-open breaker has
counted at least its threshold. -/
structure CountsStreak (config : BreakerConfig) (s : BreakerState) (n : Nat) : Prop where
  failures_of_closed : s.state = .closed → s.consecutiveFailures = n
  threshold_le_of_ne_closed : s.state ≠ .closed → config.failureThreshold ≤ s.consecutiveFailures

theorem countsStreak_default : CountsStreak config {} 0 where
  failures_of_closed _ := rfl
  threshold_le_of_ne_closed h := absurd rfl h

theorem CountsStreak.permit {n : Nat} (h : s.CountsStreak config n) (now : Instant) :
    (s.permit config now).2.2.CountsStreak config n := by
  cases hs : s.state with
  | closed => simpa only [BreakerState.permit, hs] using h
  | «open» =>
    have hle := h.threshold_le_of_ne_closed (by simp [hs])
    simp only [BreakerState.permit, hs]
    split
    · exact ⟨by simp, fun _ => hle⟩
    · exact h
  | halfOpen =>
    have hle := h.threshold_le_of_ne_closed (by simp [hs])
    simp only [BreakerState.permit, hs]
    split
    · exact ⟨by simp, fun _ => hle⟩
    · exact h

theorem CountsStreak.record_allowed (hfits : config.failureThreshold < 2 ^ 32)
    (hc : s.Coherent config) {n : Nat} (h : s.CountsStreak config n) (result : CallResult)
    (now : Instant) :
    (s.record config .allowed result now).2.CountsStreak config
      ((BreakerStep.record .allowed result now).streak n) := by
  by_cases hs : s.state = .closed
  · have hcount := h.failures_of_closed hs
    have hbelow := hc.failures_lt_of_closed hs
    cases result with
    | success => exact ⟨fun _ => by simp [record, hs, BreakerStep.streak], by simp [record, hs]⟩
    | ignored => simpa [record, BreakerStep.streak] using h
    | failure =>
      rw [record_allowed_failure_of_closed hfits hs hbelow]
      split
      · exact ⟨fun hopen => by simp at hopen, fun _ => by omega⟩
      · exact ⟨fun _ => by simp only [BreakerStep.streak]; omega, fun hne => absurd rfl hne⟩
  · have hle := h.threshold_le_of_ne_closed hs
    have hne : (s.state == .closed) = false := by simpa using hs
    cases result with
    | success => exact ⟨fun hc' => by simp_all [record], by simpa [record, hne] using fun _ => hle⟩
    | ignored => exact ⟨fun hc' => by simp_all [record], by simpa [record] using fun _ => hle⟩
    | failure =>
      exact ⟨fun hc' => by simp_all [record], fun _ => by
        simpa [record, hne] using le_saturated_failures hfits hle⟩

theorem CountsStreak.record_probe (hfits : config.failureThreshold < 2 ^ 32)
    (hs : s.state = .halfOpen) {n : Nat} (h : s.CountsStreak config n) (result : CallResult)
    (now : Instant) :
    (s.record config .probe result now).2.CountsStreak config
      ((BreakerStep.record .probe result now).streak n) := by
  have hle := h.threshold_le_of_ne_closed (by simp [hs])
  cases result with
  | success => exact ⟨fun _ => rfl, fun hne => absurd rfl hne⟩
  | failure =>
    exact ⟨fun hopen => by simp [record] at hopen, fun _ => le_saturated_failures hfits hle⟩
  | ignored => exact ⟨fun hclosed => by simp [record, hs] at hclosed, fun _ => hle⟩

theorem CountsStreak.step (hfits : config.failureThreshold < 2 ^ 32) (hc : s.Coherent config)
    {n : Nat} (h : s.CountsStreak config n) (e : BreakerStep) (hcur : e.ReportsCurrentProbe s) :
    (s.step config e).CountsStreak config (e.streak n) := by
  cases e with
  | ask now => exact h.permit now
  | reset => exact countsStreak_default
  | record admission result now =>
    cases admission with
    | rejected retryIn =>
      cases result <;> exact h
    | allowed => exact h.record_allowed hfits hc result now
    | probe => exact h.record_probe hfits hcur result now

theorem CountsStreak.run (hpos : 0 < config.failureThreshold)
    (hfits : config.failureThreshold < 2 ^ 32) (hc : s.Coherent config) {n : Nat}
    (h : s.CountsStreak config n) (steps : List BreakerStep)
    (hcurrent : ProbesCurrent config s steps) :
    (s.run config steps).CountsStreak config (steps.foldl BreakerStep.streak n) := by
  -- coherence rides along: it keeps the closed count below the threshold, so it never saturates
  induction steps generalizing s n with
  | nil => exact h
  | cons e steps ih =>
    exact ih (hc.step hpos e) (h.step hfits hc e hcurrent.1) hcurrent.2

theorem step_open_iff (hpos : 0 < config.failureThreshold)
    (hfits : config.failureThreshold < 2 ^ 32) (hc : s.Coherent config) (hs : s.state = .closed)
    {n : Nat} (h : s.CountsStreak config n) (e : BreakerStep) (hcur : e.ReportsCurrentProbe s) :
    (s.step config e).state = .open ↔ e.streak n = config.failureThreshold := by
  have hbelow := hc.failures_lt_of_closed hs
  have hn : n < config.failureThreshold := h.failures_of_closed hs ▸ hbelow
  have hafter := h.step hfits hc e hcur
  cases e with
  | ask now => simp [step, permit, hs, BreakerStep.streak]; omega
  | reset => simp [step, BreakerStep.streak]; omega
  | record admission result now =>
    cases admission with
    | rejected retryIn => simp [step, record, hs, BreakerStep.streak]; omega
    | probe => simp [BreakerStep.ReportsCurrentProbe, hs] at hcur
    | allowed =>
      cases result with
      | success => simp [step, record, hs, BreakerStep.streak]; omega
      | ignored => simp [step, record, hs, BreakerStep.streak]; omega
      | failure =>
        have hcount := h.failures_of_closed hs
        simp only [step, record_allowed_failure_of_closed hfits hs hbelow, BreakerStep.streak]
        split <;> simp <;> omega

end BreakerState

/-- With every probe reporting while the breaker is half-open, a breaker of threshold at least
one (and below `2 ^ 32`, as the configuration holds it) behaves as its documentation says: while
closed it has counted the failures since the last success or reset, it opens exactly at the
failure that brings that streak to the threshold, and open or half-open it has counted at least
the threshold. Whatever the state, the end of a straggler leaves an open or half-open breaker's
state and last failure alone, and of the failures of a call only the transient ones count. -/
theorem opens_at_threshold (config : BreakerConfig) (hpos : 0 < config.failureThreshold)
    (hfits : config.failureThreshold < 2 ^ 32) (steps : List BreakerStep)
    (hcurrent : BreakerState.ProbesCurrent config {} steps) :
    (((({} : BreakerState).run config steps).state = .closed →
        (({} : BreakerState).run config steps).consecutiveFailures = failureStreak steps ∧
        ∀ e : BreakerStep, e.ReportsCurrentProbe (({} : BreakerState).run config steps) →
          ((({} : BreakerState).run config (steps ++ [e])).state = .open ↔
            failureStreak (steps ++ [e]) = config.failureThreshold)) ∧
      ((({} : BreakerState).run config steps).state ≠ .closed →
        config.failureThreshold ≤ (({} : BreakerState).run config steps).consecutiveFailures)) ∧
    (∀ (s : BreakerState) (result : CallResult) (now : Instant), s.state ≠ .closed →
      (s.record config .allowed result now).2.state = s.state ∧
        (s.record config .allowed result now).2.lastFailureAt = s.lastFailureAt) ∧
    (∀ f : Fault, (CallResult.ofFault f = .failure ↔ f.kind = .transient) ∧
      (CallResult.ofFault f = .success ↔ f.kind = .permanent) ∧
      (CallResult.ofFault f = .ignored ↔ f.kind = .cancelled)) := by
  have hc := (BreakerState.coherent_default hpos).run hpos steps
  have hcounts : (({} : BreakerState).run config steps).CountsStreak config (failureStreak steps) :=
    BreakerState.countsStreak_default.run hpos hfits (BreakerState.coherent_default hpos) steps
      hcurrent
  refine ⟨⟨fun hclosed => ⟨hcounts.failures_of_closed hclosed, fun e hcur => ?_⟩,
    hcounts.threshold_le_of_ne_closed⟩,
    fun s result now hs => BreakerState.record_allowed_of_ne_closed hs result now, fun f => ?_⟩
  · rw [BreakerState.run_append, failureStreak_append_singleton]
    exact BreakerState.step_open_iff hpos hfits hc hclosed hcounts e hcur
  · cases hkind : f.kind <;> simp [CallResult.ofFault, hkind]

/-- Two failures trip a breaker of threshold two; the probe let through ten seconds later fails
and opens it again at three failures. -/
theorem opens_at_threshold_after_failed_probe :
    let config : BreakerConfig := { failureThreshold := 2, recoveryTimeout := Duration.ofSecs 10 }
    let t0 := Instant.scriptEpoch
    let steps : List BreakerStep :=
      [.ask t0, .ask t0, .record .allowed .failure t0, .record .allowed .failure t0,
       .ask (t0.addMillis 10000), .record .probe .failure (t0.addMillis 10000)]
    0 < config.failureThreshold ∧ config.failureThreshold < 2 ^ 32 ∧
      BreakerState.ProbesCurrent config {} steps ∧
      (((({} : BreakerState).run config steps).state = .closed →
          (({} : BreakerState).run config steps).consecutiveFailures = failureStreak steps ∧
          ∀ e : BreakerStep, e.ReportsCurrentProbe (({} : BreakerState).run config steps) →
            ((({} : BreakerState).run config (steps ++ [e])).state = .open ↔
              failureStreak (steps ++ [e]) = config.failureThreshold)) ∧
        ((({} : BreakerState).run config steps).state ≠ .closed →
          config.failureThreshold ≤ (({} : BreakerState).run config steps).consecutiveFailures)) :=
  ⟨by decide, by decide, by decide, (opens_at_threshold _ (by decide) (by decide) _ (by decide)).1⟩

/-- A breaker of threshold two with a ten-second recovery timeout. -/
def twoFailureBreaker : BreakerConfig :=
  { failureThreshold := 2, recoveryTimeout := Duration.ofSecs 10 }

/-- Two calls fail and trip the breaker; ten seconds later a first probe is let through, and ten
seconds after that, the first being abandoned, a second. The second succeeds and closes the
breaker; then the first reports its failure. -/
def staleProbeFailure : List TrafficEvent :=
  let t0 := Instant.scriptEpoch
  [.ask t0, .ask t0, .finish 0 .failure t0, .finish 0 .failure t0, .ask (t0.addMillis 10000),
   .ask (t0.addMillis 20000), .finish 1 .success (t0.addMillis 20000),
   .finish 0 .failure (t0.addMillis 20000)]

/-- An open breaker need not have counted its threshold: when a replaced probe fails after its
replacement closed the breaker, the closed breaker opens on that one failure, with one failure
counted against a threshold of two. -/
theorem stale_probe_failure_opens_below_threshold :
    ¬ ∀ sys, BreakerTraffic.Reachable twoFailureBreaker sys →
      sys.counters.state ≠ .closed →
        twoFailureBreaker.failureThreshold ≤ sys.counters.consecutiveFailures := by
  intro hclaim
  have hrun : (BreakerTraffic.start Instant.scriptEpoch).run twoFailureBreaker staleProbeFailure =
      some ⟨{ state := .open, consecutiveFailures := 1,
              lastFailureAt := some (Instant.scriptEpoch.addMillis 20000),
              probeStartedAt := none },
            [], Instant.scriptEpoch.addMillis 20000⟩ := by
    decide
  have hopen := hclaim _ ((BreakerTraffic.Reachable.start _).run _ hrun)
  revert hopen
  decide

end ResilientAgent
