import ResilientAgent.Resilience.Breaker

/-!
# Probes in flight

A breaker as its callers meet it: the counters in the store, the calls it let through that have
not reported back, and the wall clock, which here never runs back. A caller asks for admission
and, if let through, joins the calls in flight with its admission and the instant it was let in.
A call in flight later reports how it ended, with the admission it was given; a probe that is
dropped before it ends reports itself as ignored. Each of these is one atomic update of the
counters, and the callers may interleave them in any order.

A half-open breaker is meant to have one trial call out at a time; a probe that has been out for
the recovery timeout counts as abandoned and may be replaced. The record of a probe's end does not
look at which probe ends, however: a replaced probe that reports back clears the mark of its
replacement, and the next caller is let through as a probe too. `staleProbeReport` is such a run:
at its end two probes admitted at the same instant are in flight together.
-/

namespace ResilientAgent

/-- A call the breaker let through that has not reported back. -/
structure InFlightCall where
  admission : Admission
  admittedAt : Instant
  deriving DecidableEq

/-- Whether the call is a probe out for less than the recovery timeout by `now`. -/
def InFlightCall.isLiveProbe (config : BreakerConfig) (now : Instant) (c : InFlightCall) : Bool :=
  c.admission == .probe &&
    decide (now.sinceEpoch - c.admittedAt.sinceEpoch < config.recoveryTimeout.toNanos)

/-- One breaker with the calls in flight through it. -/
structure BreakerTraffic where
  counters : BreakerState
  inFlight : List InFlightCall
  clock : Instant
  deriving DecidableEq

/-- What may happen next to a breaker and its calls. -/
inductive TrafficEvent where
  /-- A caller asks for admission at `now`. -/
  | ask (now : Instant)
  /-- The call at position `i` in flight reports `result` at `now`. -/
  | finish (i : Nat) (result : CallResult) (now : Instant)
  /-- The probe at position `i` in flight is dropped at `now` and reports itself ignored. -/
  | drop (i : Nat) (now : Instant)

namespace BreakerTraffic

/-- A fresh breaker with nothing in flight, at `now`. -/
def start (now : Instant) : BreakerTraffic := ⟨{}, [], now⟩

/-- The probes in flight that are not yet abandoned. -/
def liveProbes (config : BreakerConfig) (sys : BreakerTraffic) : List InFlightCall :=
  sys.inFlight.filter (InFlightCall.isLiveProbe config sys.clock)

/-- The call at position `i` in flight reports `result` at `now`: it leaves the calls in flight
and its admission and result are recorded. -/
def settle (config : BreakerConfig) (sys : BreakerTraffic) (i : Nat) (result : CallResult)
    (now : Instant) : Option BreakerTraffic :=
  match (sys.inFlight.drop i).head? with
  | some c =>
    some ⟨(sys.counters.record config c.admission result now).2, sys.inFlight.eraseIdx i, now⟩
  | none => none

/-- One event, if it can happen: the clock does not run back, a report comes from a call in
flight, and only a probe is dropped. -/
def step (config : BreakerConfig) (sys : BreakerTraffic) : TrafficEvent → Option BreakerTraffic
  | .ask now =>
    if sys.clock.sinceEpoch ≤ now.sinceEpoch then
      let (admission, _, counters) := sys.counters.permit config now
      match admission with
      | .rejected _ => some ⟨counters, sys.inFlight, now⟩
      | _ => some ⟨counters, sys.inFlight ++ [⟨admission, now⟩], now⟩
    else none
  | .finish i result now =>
    if sys.clock.sinceEpoch ≤ now.sinceEpoch then sys.settle config i result now else none
  | .drop i now =>
    if sys.clock.sinceEpoch ≤ now.sinceEpoch &&
        ((sys.inFlight.drop i).head?.map (·.admission)) == some .probe then
      sys.settle config i .ignored now
    else none

/-- The breaker after events taken one after another, if each of them can happen. -/
def run (config : BreakerConfig) (sys : BreakerTraffic) :
    List TrafficEvent → Option BreakerTraffic
  | [] => some sys
  | e :: es => (sys.step config e).bind fun next => next.run config es

/-- The configurations some interleaving of callers reaches from a fresh breaker. -/
inductive Reachable (config : BreakerConfig) : BreakerTraffic → Prop
  | start (now : Instant) : Reachable config (start now)
  | step {sys next : BreakerTraffic} (e : TrafficEvent) :
      Reachable config sys → sys.step config e = some next → Reachable config next

theorem Reachable.run {config : BreakerConfig} {sys next : BreakerTraffic}
    (h : Reachable config sys) (es : List TrafficEvent) (hrun : sys.run config es = some next) :
    Reachable config next := by
  induction es generalizing sys with
  | nil =>
    simp only [BreakerTraffic.run, Option.some.injEq] at hrun
    exact hrun ▸ h
  | cons e es ih =>
    simp only [BreakerTraffic.run, Option.bind_eq_some_iff] at hrun
    obtain ⟨mid, hstep, hrest⟩ := hrun
    exact ih (h.step e hstep) hrest

end BreakerTraffic

/-- A breaker of threshold one with a ten-second recovery timeout. -/
def tenSecondBreaker : BreakerConfig :=
  { failureThreshold := 1, recoveryTimeout := Duration.ofSecs 10 }

/-- A call fails and trips the breaker; ten seconds later a first probe is let through, and ten
seconds after that, the first probe being abandoned, a second one. The first probe is then
dropped, which clears the mark of the second, and a third caller is let through as a probe. -/
def staleProbeReport : List TrafficEvent :=
  let t0 := Instant.scriptEpoch
  [.ask t0, .finish 0 .failure t0, .ask (t0.addMillis 10000), .ask (t0.addMillis 20000),
   .drop 0 (t0.addMillis 20000), .ask (t0.addMillis 20000)]

/-- A half-open breaker does not keep to one live trial call: after a replaced probe reports
back, a reachable configuration has two probes in flight, both admitted that instant. -/
theorem stale_probe_report_admits_second_probe :
    ¬ ∀ sys, BreakerTraffic.Reachable tenSecondBreaker sys →
      (sys.liveProbes tenSecondBreaker).length ≤ 1 := by
  intro hclaim
  have hrun : (BreakerTraffic.start Instant.scriptEpoch).run tenSecondBreaker staleProbeReport =
      some ⟨{ state := .halfOpen, consecutiveFailures := 1,
              lastFailureAt := some Instant.scriptEpoch,
              probeStartedAt := some (Instant.scriptEpoch.addMillis 20000) },
            [⟨.probe, Instant.scriptEpoch.addMillis 20000⟩,
             ⟨.probe, Instant.scriptEpoch.addMillis 20000⟩],
            Instant.scriptEpoch.addMillis 20000⟩ := by
    decide
  have hlive := hclaim _ ((BreakerTraffic.Reachable.start _).run _ hrun)
  revert hlive
  decide

end ResilientAgent
