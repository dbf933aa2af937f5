import ResilientAgent.Resilience.Breaker

/-!
# The counters of a breaker stay coherent

Three things change a breaker's counters: an admission asked at some instant
(`BreakerState.permit`), the record of how an admitted call ended (`BreakerState.record`) and a
reset to the closed breaker. A record may carry any admission and any result, since a call
admitted before a trip may report after it and a probe may report after it was replaced, and
the instants may come in any order, since the wall clock can be set back.

Whatever happens, the counters stay *coherent* (`BreakerState.Coherent`): a probe is marked
outstanding only while the breaker is half-open, a breaker that is not closed knows when it last
failed, and a closed breaker has counted fewer consecutive failures than its threshold. The last
clause needs a threshold of at least one, as the configuration's validation demands: the fresh
breaker, and one a probe's success has closed, have counted none.
-/

namespace ResilientAgent

/-- One change of a breaker's counters. -/
inductive BreakerStep where
  /-- An admission asked at `now`. -/
  | ask (now : Instant)
  /-- The record, made at `now`, of how a call admitted with `admission` ended. -/
  | record (admission : Admission) (result : CallResult) (now : Instant)
  /-- A reset to the closed breaker with no failures. -/
  | reset

namespace BreakerState

/-- The counters after one step. -/
def step (config : BreakerConfig) (s : BreakerState) : BreakerStep → BreakerState
  | .ask now => (s.permit config now).2.2
  | .record admission result now => (s.record config admission result now).2
  | .reset => {}

/-- The counters after steps taken one after another. -/
def run (config : BreakerConfig) (s : BreakerState) (steps : List BreakerStep) : BreakerState :=
  steps.foldl (step config) s

@[simp] theorem run_nil (config : BreakerConfig) (s : BreakerState) : s.run config [] = s := rfl

@[simp] theorem run_cons (config : BreakerConfig) (s : BreakerState) (e : BreakerStep)
    (steps : List BreakerStep) : s.run config (e :: steps) = (s.step config e).run config steps :=
  rfl

/-- The counters fit the state they are in. -/
structure Coherent (config : BreakerConfig) (s : BreakerState) : Prop where
  /-- Only a half-open breaker has a probe outstanding. -/
  probe_halfOpen : s.probeStartedAt.isSome → s.state = .halfOpen
  /-- An open or half-open breaker knows when it last failed. -/
  lastFailure_of_ne_closed : s.state ≠ .closed → s.lastFailureAt.isSome
  /-- A closed breaker is below its threshold. -/
  failures_lt_of_closed : s.state = .closed → s.consecutiveFailures < config.failureThreshold

variable {config : BreakerConfig} {s : BreakerState}

theorem coherent_default (hthreshold : 0 < config.failureThreshold) : Coherent config {} where
  probe_halfOpen h := by simp at h
  lastFailure_of_ne_closed h := absurd rfl h
  failures_lt_of_closed _ := hthreshold

theorem Coherent.probeStartedAt_of_ne_halfOpen (hc : s.Coherent config)
    (hs : s.state ≠ .halfOpen) : s.probeStartedAt = none :=
  Option.not_isSome_iff_eq_none.1 fun h => hs (hc.probe_halfOpen h)

/-- An admission keeps the counters coherent: an open breaker turns half-open with its last
failure still known, and a half-open one only marks a new probe. -/
theorem Coherent.permit (hc : s.Coherent config) (now : Instant) :
    (s.permit config now).2.2.Coherent config := by
  cases hs : s.state with
  | closed => simpa only [BreakerState.permit, hs] using hc
  | «open» =>
    have hlast : s.lastFailureAt.isSome := hc.lastFailure_of_ne_closed (by simp [hs])
    simp only [BreakerState.permit, hs]
    split
    · exact ⟨fun _ => rfl, fun _ => hlast, by simp⟩
    · exact hc
  | halfOpen =>
    have hlast : s.lastFailureAt.isSome := hc.lastFailure_of_ne_closed (by simp [hs])
    simp only [BreakerState.permit, hs]
    split
    · exact ⟨fun _ => rfl, fun _ => hlast, by simp⟩
    · exact hc

/-- A record keeps the counters coherent, whatever admission and result it carries. -/
theorem Coherent.record (hthreshold : 0 < config.failureThreshold) (hc : s.Coherent config)
    (admission : Admission) (result : CallResult) (now : Instant) :
    (s.record config admission result now).2.Coherent config := by
  have hlast := hc.lastFailure_of_ne_closed
  have hbelow := hc.failures_lt_of_closed
  cases admission with
  | rejected retryIn => exact hc
  | probe =>
    cases result with
    | success => exact ⟨by simp [BreakerState.record], by simp [BreakerState.record],
        fun _ => hthreshold⟩
    | failure => exact ⟨by simp [BreakerState.record], by simp [BreakerState.record],
        by simp [BreakerState.record]⟩
    | ignored => exact ⟨by simp [BreakerState.record], hlast, hbelow⟩
  | allowed =>
    cases result with
    | success =>
      by_cases hs : s.state = .closed
      · exact ⟨by simpa [BreakerState.record, hs] using hc.probe_halfOpen,
          by simp [BreakerState.record, hs],
          fun _ => by simpa [BreakerState.record, hs] using hthreshold⟩
      · simpa [BreakerState.record, hs] using hc
    | failure =>
      by_cases hs : s.state = .closed
      · -- the failure trips the breaker exactly when the new count reaches the threshold
        have hprobe := hc.probeStartedAt_of_ne_halfOpen (by simp [hs])
        refine ⟨by simp [BreakerState.record, hs, hprobe], by simp [BreakerState.record, hs],
          ?_⟩
        simp only [BreakerState.record, hs, beq_self_eq_true, if_true]
        split
        · intro hopen
          cases hopen
        · intro _
          exact Nat.lt_of_not_le ‹_›
      · -- a straggler's failure is counted, and nothing else changes
        simp only [BreakerState.record, hs, beq_iff_eq, if_false]
        exact ⟨hc.probe_halfOpen, hc.lastFailure_of_ne_closed, fun h => absurd h hs⟩
    | ignored => simpa [BreakerState.record] using hc

theorem Coherent.step (hthreshold : 0 < config.failureThreshold) (hc : s.Coherent config)
    (e : BreakerStep) : (s.step config e).Coherent config := by
  cases e with
  | ask now => exact hc.permit now
  | record admission result now => exact hc.record hthreshold admission result now
  | reset => exact coherent_default hthreshold

theorem Coherent.run (hthreshold : 0 < config.failureThreshold) (hc : s.Coherent config)
    (steps : List BreakerStep) : (s.run config steps).Coherent config := by
  induction steps generalizing s with
  | nil => exact hc
  | cons e steps ih => exact ih (hc.step hthreshold e)

end BreakerState

/-- From the fresh breaker, every sequence of admissions, records and resets, at any instants,
leaves a probe marked only while half-open, the last failure known while open or half-open, and
fewer consecutive failures than the threshold while closed. -/
theorem breaker_counters_coherent (config : BreakerConfig)
    (hthreshold : 0 < config.failureThreshold) (steps : List BreakerStep) :
    (({} : BreakerState).run config steps).Coherent config :=
  (BreakerState.coherent_default hthreshold).run hthreshold steps

/-- A breaker of threshold one, tripped by a failure and probed ten seconds later, then reset. -/
theorem breaker_counters_coherent_after_trip :
    0 < ({ failureThreshold := 1 } : BreakerConfig).failureThreshold ∧
      (({} : BreakerState).run { failureThreshold := 1 }
        [.ask Instant.scriptEpoch, .record .allowed .failure Instant.scriptEpoch,
         .ask (Instant.scriptEpoch.addMillis 10000), .record .probe .ignored Instant.scriptEpoch,
         .reset]).Coherent { failureThreshold := 1 } :=
  ⟨by decide, breaker_counters_coherent _ (by decide) _⟩

end ResilientAgent
