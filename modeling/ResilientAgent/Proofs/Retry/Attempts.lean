import ResilientAgent.Proofs.Process.Turns
import ResilientAgent.Resilience.Retry

/-!
# A retry loop, unrolled

Let an operation's attempts end with fixed outcomes: attempt `i` ends with `outcomes i` whatever
it does on the way (`Proc.Yields`). Then the retry loop is a straight-line program
(`RetryPolicy.execute_eq_moves`). It makes the attempts `0, 1, …, last` in order. Each failed
attempt before the last records the event that schedules the next attempt, naming the next
attempt's number and the backoff delay, and sleeps that delay (`RetryPolicy.retriedMoves`). After
the last attempt it records that the retries ran out, if they did.

The last attempt is the first whose outcome stops the loop, a success or a failure the policy
does not retry, and at most `maxRetries` (`RetryPolicy.lastAttempt_spec`). The loop returns a
stopping outcome as it is. When every attempt failed in a way worth retrying, it returns
`RetryExhausted` with the number of attempts and the last failure.
-/

namespace ResilientAgent

namespace Proc

variable {σ : Type}

/-- Every value the process can end with is `v`, whatever the world does. -/
def Yields {α : Type} (v : α) : Proc σ α → Prop
  | .pure a => a = v
  | .read next => ∀ s, Yields v (next s)
  | .write _ next => Yields v next
  | .await _ _ next => Yields v next
  | .first _ _ next => ∀ x, Yields v (next x)
  | .join _ _ _ next => ∀ x, Yields v (next x)
  | .guard _ _ _ next => ∀ b, Yields v (next b)
  | .spawn _ next => Yields v next

theorem bind_eq_of_yields {α β : Type} {v : α} {p : Proc σ α} (h : Yields v p)
    (k : α → Proc σ β) : p.bind k = p.bind fun _ => k v := by
  induction p with
  | pure a =>
    cases h
    rfl
  | read next ih => simp only [bind, fun s => ih s (h s)]
  | write s next ih => simp only [bind, ih h]
  | await ready d next ih => simp only [bind, ih h]
  | first l r next _ _ ih => simp only [bind, fun x => ih x (h x)]
  | join n cs abort next _ ih => simp only [bind, fun x => ih x (h x)]
  | guard undo cleanup body next _ _ ih => simp only [bind, fun b => ih b (h b)]
  | spawn task next _ ih => simp only [bind, ih h]

theorem yields_pure {α : Type} (a : α) : Yields a (.pure a : Proc σ α) := rfl

@[simp] theorem pure_bind {α β : Type} (a : α) (k : α → Proc σ β) : (Proc.pure a).bind k = k a :=
  rfl

end Proc

/-- One thing a retry loop does, as seen from outside: an attempt of the operation, an event
recorded, or a sleep. -/
inductive RetryMove where
  | call (attempt : Nat)
  | record (event : RuntimeEvent)
  | sleep (delay : Duration)

namespace RetryMove

def attempt? : RetryMove → Option Nat
  | .call n => some n
  | _ => none

/-- Whether a move records that the retries ran out. -/
def exhausts : RetryMove → Bool
  | .record (.retryExhausted ..) => true
  | _ => false

def perform {α : Type} (op : Nat → Action (Except Fault α)) : RetryMove → Action Unit
  | .call n => (op n).bind fun _ => .pure ()
  | .record e => Action.record e
  | .sleep d => Action.sleep d

def performAll {α : Type} (op : Nat → Action (Except Fault α)) (moves : List RetryMove) :
    Action Unit :=
  moves.foldr (fun m rest => (m.perform op).bind fun _ => rest) (.pure ())

@[simp] theorem performAll_nil {α : Type} (op : Nat → Action (Except Fault α)) :
    performAll op [] = .pure () := rfl

theorem performAll_cons {α β : Type} (op : Nat → Action (Except Fault α)) (m : RetryMove)
    (ms : List RetryMove) (k : Unit → Action β) :
    (performAll op (m :: ms)).bind k = (m.perform op).bind fun _ => (performAll op ms).bind k := by
  simp only [performAll, List.foldr_cons, Proc.bind_assoc]

theorem perform_call_bind {α β : Type} (op : Nat → Action (Except Fault α)) (n : Nat)
    (k : Unit → Action β) : ((RetryMove.call n).perform op).bind k = (op n).bind fun _ => k () := by
  simp only [perform, Proc.bind_assoc]
  rfl

theorem performAll_append {α β : Type} (op : Nat → Action (Except Fault α))
    (ms ms' : List RetryMove) (k : Unit → Action β) :
    (performAll op (ms ++ ms')).bind k = (performAll op ms).bind fun _ => (performAll op ms').bind k := by
  induction ms with
  | nil => rfl
  | cons m ms ih =>
    simp only [performAll, List.foldr_cons, List.cons_append, Proc.bind_assoc] at ih ⊢
    rw [ih]

end RetryMove

namespace RetryPolicy

variable {α : Type} (p : RetryPolicy) (dependency : String) (outcomes : Nat → Except Fault α)

/-- Whether an outcome ends the retries: a success, or a failure the policy does not retry. -/
def stops : Except Fault α → Bool
  | .ok _ => true
  | .error e => !p.retryable e

/-- The last attempt made from attempt `n` with `left` retries still allowed after it. -/
def lastAttemptFrom (n : Nat) : Nat → Nat
  | 0 => n
  | left + 1 => if p.stops (outcomes n) then n else lastAttemptFrom (n + 1) left

/-- The last attempt the loop makes. -/
def lastAttempt : Nat := p.lastAttemptFrom outcomes 0 p.maxRetries

def failureText : Except Fault α → String
  | .ok _ => ""
  | .error e => e.display

/-- The moves of an attempt `i` that failed and is tried again: the attempt, the event that
schedules attempt `i + 1` after the backoff delay of attempt `i`, and the sleep. -/
def retriedMoves (i : Nat) : List RetryMove :=
  [.call i, .record (.retryScheduled dependency (i + 1) (p.backoff.delayFor i)
      (failureText (outcomes i))),
    .sleep (p.backoff.delayFor i)]

/-- The moves made after the last attempt: the record that the retries ran out, if they did. -/
def finalMoves (last : Nat) : List RetryMove :=
  if p.stops (outcomes last) then [] else [.record (.retryExhausted dependency (last + 1))]

/-- What the loop does from attempt `n` with `left` retries allowed after it: the attempts
retried, each with its event and sleep, then the last attempt and what follows it. -/
def movesFrom (n left : Nat) : List RetryMove :=
  (List.range' n (p.lastAttemptFrom outcomes n left - n)).flatMap (p.retriedMoves dependency outcomes) ++
    [.call (p.lastAttemptFrom outcomes n left)] ++
    p.finalMoves dependency outcomes (p.lastAttemptFrom outcomes n left)

/-- What the whole loop does: attempts `0, …, last - 1` retried, then the last attempt. -/
def moves : List RetryMove :=
  (List.range (p.lastAttempt outcomes)).flatMap (p.retriedMoves dependency outcomes) ++
    .call (p.lastAttempt outcomes) :: p.finalMoves dependency outcomes (p.lastAttempt outcomes)

/-- What the loop returns when its last attempt is `last`: a stopping outcome as it is, or the
last failure wrapped as `RetryExhausted`. -/
def resultAt (last : Nat) : Except Fault α :=
  match outcomes last with
  | .ok v => .ok v
  | .error e =>
    if p.retryable e then .error (.agent (.retryExhausted dependency (last + 1) e)) else .error e

theorem le_lastAttemptFrom (n left : Nat) : n ≤ p.lastAttemptFrom outcomes n left := by
  induction left generalizing n with
  | zero => exact Nat.le_refl n
  | succ left ih =>
    simp only [lastAttemptFrom]
    split
    · exact Nat.le_refl n
    · exact Nat.le_of_succ_le (ih (n + 1))

theorem lastAttemptFrom_spec (n left : Nat) :
    p.lastAttemptFrom outcomes n left ≤ n + left ∧
      (∀ i, n ≤ i → i < p.lastAttemptFrom outcomes n left → p.stops (outcomes i) = false) ∧
      (p.stops (outcomes (p.lastAttemptFrom outcomes n left)) = true ∨
        p.lastAttemptFrom outcomes n left = n + left) := by
  induction left generalizing n with
  | zero =>
    exact ⟨Nat.le_refl _, fun i hi hlt => absurd hlt (by simp [lastAttemptFrom]; omega), .inr rfl⟩
  | succ left ih =>
    by_cases hstop : p.stops (outcomes n) = true
    · rw [lastAttemptFrom, if_pos hstop]
      exact ⟨by omega, fun i hi hlt => absurd hlt (by omega), .inl hstop⟩
    · rw [lastAttemptFrom, if_neg hstop]
      obtain ⟨hle, hbefore, hend⟩ := ih (n + 1)
      refine ⟨by omega, fun i hi hlt => ?_, hend.imp_right fun h => by omega⟩
      rcases Nat.eq_or_lt_of_le hi with rfl | hi'
      · exact Bool.eq_false_iff.2 hstop
      · exact hbefore i hi' hlt

variable {p outcomes}

theorem resultAt_of_stops {n : Nat} (hstop : p.stops (outcomes n) = true) :
    p.resultAt dependency outcomes n = outcomes n := by
  unfold resultAt
  cases ho : outcomes n with
  | ok v => rfl
  | error e =>
    simp only [ho, stops, Bool.not_eq_true'] at hstop
    simp [hstop]

theorem lastAttemptFrom_of_stops {n : Nat} (hstop : p.stops (outcomes n) = true) (left : Nat) :
    p.lastAttemptFrom outcomes n left = n := by
  cases left <;> simp [lastAttemptFrom, hstop]

theorem movesFrom_of_stops {n : Nat} (hstop : p.stops (outcomes n) = true) (left : Nat) :
    p.movesFrom dependency outcomes n left = [.call n] := by
  simp [movesFrom, lastAttemptFrom_of_stops hstop, finalMoves, hstop]

/-! ## One attempt -/

section Step

variable {op : Nat → Action (Except Fault α)} (hop : ∀ i, Proc.Yields (outcomes i) (op i))
include hop

theorem attempt_of_stops {n : Nat} (hstop : p.stops (outcomes n) = true) (left : Nat) :
    execute.attempt p dependency op n left = (op n).bind fun _ => .pure (outcomes n) := by
  cases left <;>
  · rw [execute.attempt]
    simp only [Proc.bind_eq]
    rw [Proc.bind_eq_of_yields (hop n)]
    cases ho : outcomes n with
    | ok v => rfl
    | error e =>
      rw [ho] at hstop
      simp only [stops] at hstop
      simp [hstop]

theorem attempt_zero_of_retried {n : Nat} (hgo : p.stops (outcomes n) = false) :
    execute.attempt p dependency op n 0 = (op n).bind fun _ =>
      (Action.record (.retryExhausted dependency (n + 1))).bind fun _ =>
        .pure (p.resultAt dependency outcomes n) := by
  rw [execute.attempt]
  simp only [Proc.bind_eq]
  rw [Proc.bind_eq_of_yields (hop n)]
  cases ho : outcomes n with
  | ok v => simp [ho, stops] at hgo
  | error e =>
    simp only [ho, stops, Bool.not_eq_false'] at hgo
    simp [resultAt, ho, hgo]

theorem attempt_succ_of_retried (hjitter : p.backoff.jitter = false) {n : Nat}
    (hgo : p.stops (outcomes n) = false) (left : Nat) :
    execute.attempt p dependency op n (left + 1) = (op n).bind fun _ =>
      (Action.record (.retryScheduled dependency (n + 1) (p.backoff.delayFor n)
          (failureText (outcomes n)))).bind fun _ =>
        (Action.sleep (p.backoff.delayFor n)).bind fun _ =>
          execute.attempt p dependency op (n + 1) left := by
  rw [execute.attempt]
  simp only [Proc.bind_eq]
  rw [Proc.bind_eq_of_yields (hop n)]
  cases ho : outcomes n with
  | ok v => simp [ho, stops] at hgo
  | error e =>
    simp only [ho, stops, Bool.not_eq_false'] at hgo
    simp [failureText, hgo, Backoff.jittered_of_jitter_false hjitter]

theorem attempt_eq_last {n : Nat} (hstop : p.stops (outcomes n) = true) (left : Nat) :
    execute.attempt p dependency op n left =
      (RetryMove.performAll op [.call n]).bind fun _ => .pure (p.resultAt dependency outcomes n) := by
  rw [attempt_of_stops dependency hop hstop, resultAt_of_stops dependency hstop]
  simp only [RetryMove.performAll_cons, RetryMove.perform_call_bind, RetryMove.performAll_nil,
    Proc.pure_bind]

theorem attempt_eq_moves (hjitter : p.backoff.jitter = false) (n left : Nat) :
    execute.attempt p dependency op n left =
      (RetryMove.performAll op (p.movesFrom dependency outcomes n left)).bind fun _ =>
        .pure (p.resultAt dependency outcomes (p.lastAttemptFrom outcomes n left)) := by
  induction left generalizing n with
  | zero =>
    by_cases hstop : p.stops (outcomes n) = true
    · rw [attempt_eq_last dependency hop hstop, movesFrom_of_stops dependency hstop,
        lastAttemptFrom_of_stops hstop]
    · rw [Bool.not_eq_true] at hstop
      rw [attempt_zero_of_retried dependency hop hstop]
      simp only [movesFrom, lastAttemptFrom, finalMoves, hstop, Nat.sub_self, List.range'_zero,
        List.flatMap_nil, List.nil_append, Bool.false_eq_true, if_false, List.singleton_append,
        RetryMove.performAll_cons, RetryMove.performAll_nil, RetryMove.perform, Proc.bind_assoc,
        Proc.pure_bind]
  | succ left ih =>
    by_cases hstop : p.stops (outcomes n) = true
    · rw [attempt_eq_last dependency hop hstop, movesFrom_of_stops dependency hstop,
        lastAttemptFrom_of_stops hstop]
    · rw [Bool.not_eq_true] at hstop
      rw [attempt_succ_of_retried dependency hop hjitter hstop, ih (n + 1)]
      have hnext := le_lastAttemptFrom p outcomes (n + 1) left
      have hrange : List.range' n (p.lastAttemptFrom outcomes (n + 1) left - n) =
          n :: List.range' (n + 1) (p.lastAttemptFrom outcomes (n + 1) left - (n + 1)) := by
        rw [show p.lastAttemptFrom outcomes (n + 1) left - n =
          (p.lastAttemptFrom outcomes (n + 1) left - (n + 1)) + 1 by omega, List.range'_succ]
      simp only [movesFrom, lastAttemptFrom, hstop, Bool.false_eq_true, if_false, hrange,
        List.flatMap_cons, List.append_assoc, RetryMove.performAll_append, retriedMoves,
        List.cons_append, List.nil_append, RetryMove.performAll_cons, RetryMove.perform,
        Proc.bind_assoc, Proc.pure_bind]

end Step

/-! ## The whole loop -/

theorem movesFrom_zero : p.movesFrom dependency outcomes 0 p.maxRetries = p.moves dependency outcomes := by
  simp only [movesFrom, moves, lastAttempt, Nat.sub_zero, ← List.range_eq_range',
    List.append_assoc, List.singleton_append]

theorem moves_calls :
    (p.moves dependency outcomes).filterMap RetryMove.attempt? = List.range (p.lastAttempt outcomes + 1) := by
  have hretried : ∀ i, (p.retriedMoves dependency outcomes i).filterMap RetryMove.attempt? = [i] := by
    intro i
    rfl
  have hfinal : (p.finalMoves dependency outcomes (p.lastAttempt outcomes)).filterMap
      RetryMove.attempt? = [] := by
    unfold finalMoves
    split <;> rfl
  rw [moves, List.filterMap_append, List.filterMap_flatMap, List.filterMap_cons, RetryMove.attempt?,
    hfinal, List.range_succ]
  simp only [hretried, List.flatMap_singleton']

theorem moves_exhausts :
    (p.moves dependency outcomes).countP RetryMove.exhausts =
      if p.stops (outcomes (p.lastAttempt outcomes)) then 0 else 1 := by
  have hretried : ∀ i, (p.retriedMoves dependency outcomes i).countP RetryMove.exhausts = 0 := by
    intro i
    rfl
  simp only [moves, List.countP_append, List.countP_flatMap, Function.comp_def, hretried,
    List.map_const', List.sum_replicate_nat, Nat.mul_zero, finalMoves]
  split <;> simp [RetryMove.exhausts]

variable (p outcomes) in
/-- The last attempt is within the budget, every attempt before it went on, and it stopped the
loop or used up the budget. -/
theorem lastAttempt_spec :
    p.lastAttempt outcomes ≤ p.maxRetries ∧
      (∀ i < p.lastAttempt outcomes, p.stops (outcomes i) = false) ∧
      (p.stops (outcomes (p.lastAttempt outcomes)) = true ∨ p.lastAttempt outcomes = p.maxRetries) := by
  obtain ⟨hle, hbefore, hend⟩ := lastAttemptFrom_spec p outcomes 0 p.maxRetries
  rw [Nat.zero_add] at hle hend
  exact ⟨hle, fun i => hbefore i (Nat.zero_le i), hend⟩

theorem lastAttempt_eq_min {k : Nat} (hk : p.stops (outcomes k) = true)
    (hfirst : ∀ i < k, p.stops (outcomes i) = false) :
    p.lastAttempt outcomes = min k p.maxRetries := by
  obtain ⟨hle, hbefore, hend⟩ := lastAttempt_spec p outcomes
  have hlast : p.lastAttempt outcomes ≤ k := by
    refine Nat.le_of_not_lt fun hlt => ?_
    simp [hbefore k hlt] at hk
  rcases Nat.eq_or_lt_of_le hlast with heq | hlt
  · omega
  · -- an attempt before `k` went on, so it was the budget that ended the loop
    simp only [hfirst _ hlt, Bool.false_eq_true, false_or] at hend
    omega

theorem lastAttempt_of_never_stops (hgo : ∀ i ≤ p.maxRetries, p.stops (outcomes i) = false) :
    p.lastAttempt outcomes = p.maxRetries := by
  obtain ⟨hle, -, hend⟩ := lastAttempt_spec p outcomes
  simpa [hgo _ hle] using hend

theorem resultAt_lastAttempt :
    (p.stops (outcomes (p.lastAttempt outcomes)) = true ∧
        p.resultAt dependency outcomes (p.lastAttempt outcomes) = outcomes (p.lastAttempt outcomes)) ∨
      ∃ e, p.lastAttempt outcomes = p.maxRetries ∧ outcomes p.maxRetries = .error e ∧
        p.retryable e = true ∧
        p.resultAt dependency outcomes (p.lastAttempt outcomes) =
          .error (.agent (.retryExhausted dependency (p.maxRetries + 1) e)) := by
  by_cases hstop : p.stops (outcomes (p.lastAttempt outcomes)) = true
  · exact .inl ⟨hstop, resultAt_of_stops dependency hstop⟩
  · obtain ⟨-, -, hend⟩ := lastAttempt_spec p outcomes
    have hmax : p.lastAttempt outcomes = p.maxRetries := by
      simpa [hstop] using hend
    refine .inr ?_
    rw [hmax] at hstop ⊢
    cases ho : outcomes p.maxRetries with
    | ok v => simp [ho, stops] at hstop
    | error e =>
      simp only [ho, stops, Bool.not_eq_true', Bool.not_eq_false] at hstop
      exact ⟨e, rfl, rfl, hstop, by simp [resultAt, ho, hstop]⟩

section Run

variable {op : Nat → Action (Except Fault α)} (hop : ∀ i, Proc.Yields (outcomes i) (op i))
include hop

theorem execute_eq_moves (hjitter : p.backoff.jitter = false) :
    execute p dependency op =
      (RetryMove.performAll op (p.moves dependency outcomes)).bind fun _ =>
        .pure (p.resultAt dependency outcomes (p.lastAttempt outcomes)) := by
  rw [execute, attempt_eq_moves dependency hop hjitter, movesFrom_zero]
  rfl

/-- The retry loop, without jitter, over an operation whose attempts end with the outcomes
`outcomes`: it is the straight-line program `moves`, which makes the attempts `0, …, last` in order. `last` is the first
attempt that stops the loop, or the last the budget allows. Each retry is preceded by exactly one
record of it and one sleep of the backoff delay. The retries ran out, and were recorded so, when
the last attempt did not stop the loop; then every attempt failed in a way worth retrying, and
`RetryExhausted` counts `maxRetries + 1` of them. -/
theorem execute_runs_attempts_in_order (hjitter : p.backoff.jitter = false) :
    execute p dependency op =
        (RetryMove.performAll op (p.moves dependency outcomes)).bind (fun _ =>
          .pure (p.resultAt dependency outcomes (p.lastAttempt outcomes))) ∧
      (p.moves dependency outcomes).filterMap RetryMove.attempt? =
        List.range (p.lastAttempt outcomes + 1) ∧
      (∀ k, p.stops (outcomes k) = true → (∀ i < k, p.stops (outcomes i) = false) →
        p.lastAttempt outcomes = min k p.maxRetries) ∧
      ((∀ i ≤ p.maxRetries, p.stops (outcomes i) = false) → p.lastAttempt outcomes = p.maxRetries) ∧
      (p.moves dependency outcomes).countP RetryMove.exhausts =
        (if p.stops (outcomes (p.lastAttempt outcomes)) then 0 else 1) ∧
      ((p.stops (outcomes (p.lastAttempt outcomes)) = true ∧
          p.resultAt dependency outcomes (p.lastAttempt outcomes) = outcomes (p.lastAttempt outcomes)) ∨
        ∃ e, p.lastAttempt outcomes = p.maxRetries ∧ outcomes p.maxRetries = .error e ∧
          p.retryable e = true ∧
          p.resultAt dependency outcomes (p.lastAttempt outcomes) =
            .error (.agent (.retryExhausted dependency (p.maxRetries + 1) e))) :=
  ⟨execute_eq_moves dependency hop hjitter, moves_calls dependency, fun _ => lastAttempt_eq_min,
    lastAttempt_of_never_stops, moves_exhausts dependency, resultAt_lastAttempt dependency⟩

end Run

/-- A search that is busy on every attempt, with one retry allowed: two attempts, the retry
recorded and slept, then the exhaustion recorded and returned with the count two. -/
theorem busy_search_exhausts_after_two_attempts :
    execute { maxRetries := 1, backoff := .fixed (Duration.ofMillis 100) } "search"
        (fun _ => .pure (.error (.plain "busy") : Except Fault Nat)) =
      (RetryMove.performAll (fun _ => .pure (.error (.plain "busy") : Except Fault Nat))
        [.call 0, .record (.retryScheduled "search" 1 (Duration.ofMillis 100) "busy"),
          .sleep (Duration.ofMillis 100), .call 1, .record (.retryExhausted "search" 2)]).bind
        fun _ => .pure (.error (.agent (.retryExhausted "search" 2 (.plain "busy")))) := by
  obtain ⟨hrun, -⟩ := execute_runs_attempts_in_order
    (p := { maxRetries := 1, backoff := .fixed (Duration.ofMillis 100) }) "search"
    (fun _ => Proc.yields_pure (.error (.plain "busy") : Except Fault Nat)) rfl
  rw [hrun]
  rfl

end RetryPolicy

end ResilientAgent
