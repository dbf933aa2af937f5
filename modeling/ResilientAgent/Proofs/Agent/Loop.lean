import ResilientAgent.Proofs.Process.Exec
import ResilientAgent.Proofs.Idempotency.Callers
import ResilientAgent.Agent.Loop

/-!
# What the agent loop does with its steps

The loop calls its step over and over on a growing conversation. Whatever the step answers and
whatever the rest of the system does meanwhile, a run of the loop that is not cancelled and not
cut short by the request's time bound is described by the outcomes of its steps
(`AgentLoop.exec_drive`):

* the steps that asked for another turn came first, the one at iteration `i` called on the
  history, the user message and everything the steps before it appended
  (`AgentLoop.CalledInTurn`);
* then the loop ended in one of three ways (`AgentLoop.Ends`): every allowed iteration asked for
  another turn and the loop gave its fixed answer; or the next step failed and its error is the
  run's; or the next step finished and its text is the answer, with a note naming the
  unavailable tools when there were any.

The messages a run adds are the user message and what each step appended; the unavailable tools
are those the steps reported, each once, in the order first reported (`RunProgress.after`). At
the very end the loop records the state it ended in for the request's scope
(`loop_reports_what_its_steps_answered`).
-/

namespace ResilientAgent

open Proc

/-! ## Names gathered once -/

section Unseen

variable {α : Type} [BEq α] [LawfulBEq α]

/-- `d` added at the end of `acc` unless it is there already: how the loop gathers the tools
found unavailable. -/
def addUnseen (acc : List α) (d : α) : List α := if acc.contains d then acc else acc ++ [d]

theorem eraseDups_append_cons_of_mem {acc L : List α} {d : α} (hd : d ∈ acc) :
    (acc ++ d :: L).eraseDups = (acc ++ L).eraseDups := by
  rw [List.eraseDups_append, List.eraseDups_append]
  simp [List.removeAll, hd]

theorem eraseDups_addUnseen {acc : List α} (hacc : acc.eraseDups = acc) (d : α) :
    (addUnseen acc d).eraseDups = addUnseen acc d := by
  by_cases hd : d ∈ acc
  · simp [addUnseen, hd, hacc]
  · simp [addUnseen, hd, List.eraseDups_append, hacc, List.removeAll, List.eraseDups_cons]

theorem eraseDups_foldl_addUnseen {acc : List α} (hacc : acc.eraseDups = acc) (L : List α) :
    (L.foldl addUnseen acc).eraseDups = L.foldl addUnseen acc := by
  induction L generalizing acc with
  | nil => exact hacc
  | cons d L ih => exact ih (eraseDups_addUnseen hacc d)

theorem foldl_addUnseen {acc : List α} (hacc : acc.eraseDups = acc) (L : List α) :
    L.foldl addUnseen acc = (acc ++ L).eraseDups := by
  induction L generalizing acc with
  | nil => simp [hacc]
  | cons d L ih =>
    rw [List.foldl_cons, ih (eraseDups_addUnseen hacc d)]
    by_cases hd : d ∈ acc
    · simp [addUnseen, hd, eraseDups_append_cons_of_mem hd]
    · simp [addUnseen, hd]

end Unseen

/-! ## The loop's progress -/

namespace StepOutcome

/-- The messages a step adds to the conversation. -/
def appended : StepOutcome → List Message
  | .next appended .. => appended
  | .done _ appended _ => appended

/-- The tokens a step spent. -/
def usage : StepOutcome → Usage
  | .next _ usage .. => usage
  | .done _ _ usage => usage

/-- The tools a step found unavailable; a step that finished reports none. -/
def degraded : StepOutcome → List String
  | .next _ _ _ degraded => degraded
  | .done .. => []

/-- Whether the step asks for another turn. -/
def isNext : StepOutcome → Bool
  | .next .. => true
  | .done .. => false

end StepOutcome

namespace RunProgress

/-- Where a run starts: the history and the user message, which is also the first message the
run adds. -/
def start (req : RunRequest) : RunProgress :=
  ⟨req.history ++ [Message.user req.message], [Message.user req.message], {}, []⟩

/-- The progress after steps with outcomes `outs`: their messages appended to the conversation
and to the messages added, their tokens added up, and the tools they found unavailable, each
once, in the order first found. -/
def after (p : RunProgress) (outs : List StepOutcome) : RunProgress where
  conversation := p.conversation ++ outs.flatMap StepOutcome.appended
  added := p.added ++ outs.flatMap StepOutcome.appended
  usage := outs.foldl (fun u o => u.add o.usage) p.usage
  degraded := (p.degraded ++ outs.flatMap StepOutcome.degraded).eraseDups

/-- The progress after one more step, as the loop keeps it. -/
def advance (p : RunProgress) (o : StepOutcome) : RunProgress where
  conversation := p.conversation ++ o.appended
  added := p.added ++ o.appended
  usage := p.usage.add o.usage
  degraded := o.degraded.foldl addUnseen p.degraded

theorem after_nil {p : RunProgress} (hdeg : p.degraded.eraseDups = p.degraded) :
    p.after [] = p := by
  simp [after, hdeg]

theorem advance_degraded_eraseDups {p : RunProgress} (hdeg : p.degraded.eraseDups = p.degraded)
    (o : StepOutcome) : (p.advance o).degraded.eraseDups = (p.advance o).degraded :=
  eraseDups_foldl_addUnseen hdeg _

theorem advance_after {p : RunProgress} (hdeg : p.degraded.eraseDups = p.degraded)
    (o : StepOutcome) (outs : List StepOutcome) :
    (p.advance o).after outs = p.after (o :: outs) := by
  have hdegraded : ((p.advance o).degraded ++ outs.flatMap StepOutcome.degraded).eraseDups =
      (p.degraded ++ (o.degraded ++ outs.flatMap StepOutcome.degraded)).eraseDups := by
    rw [← foldl_addUnseen (advance_degraded_eraseDups hdeg o), advance, ← List.foldl_append,
      foldl_addUnseen hdeg]
  unfold after
  rw [hdegraded]
  simp only [advance, List.flatMap_cons, List.append_assoc, List.foldl_cons]

@[simp] theorem start_degraded (req : RunRequest) : (start req).degraded = [] := rfl

end RunProgress

/-! ## The loop's contract -/

namespace AgentLoop

/-- The state a run reports at its end for the result it ended with. -/
def endState : Except AgentError AgentRun → LoopState
  | .ok r => if r.outcome == .iterationLimitReached then .iterationLimitReached else .done
  | .error e => .failed e.code

variable (l : AgentLoop) (req : RunRequest)

/-- The step, called at iteration `k` on `messages`, answered `o`: it ran, among whatever else
was running, from a world whose last event reports the loop running iteration `k`. -/
def Called (k : Nat) (messages : List Message) (o : Except AgentError StepOutcome) : Prop :=
  ∃ v w : World,
    Exec (v.recordEvent (.loopPhase req.scope (.running k))) (l.step ⟨messages, req.scope, k⟩) w (.pure o)

/-- Steps that each asked for another turn, from progress `p` at iteration `k` on: the one at
iteration `k + i` called on the conversation with what the ones before it appended. -/
def CalledInTurn (k : Nat) (p : RunProgress) (outs : List StepOutcome) : Prop :=
  ∀ i (hi : i < outs.length), outs[i].isNext = true ∧
    l.Called req (k + i) (p.after (outs.take i)).conversation (.ok outs[i])

/-- How a run of the loop ends, from progress `p` at iteration `k` with `left` iterations
allowed, after steps with outcomes `outs` that each asked for another turn, and the state it
reports at its end. -/
inductive Ends (k left : Nat) (p : RunProgress) (outs : List StepOutcome) :
    Except AgentError AgentRun → LoopState → Prop
  /-- Every allowed iteration asked for another turn: the fixed answer. -/
  | limit (hlen : outs.length = left) :
      Ends k left p outs
        (.ok { outcome := .iterationLimitReached, response := iterationLimitResponse
               messages := (p.after outs).added ++ [Message.assistant iterationLimitResponse]
               iterations := l.maxIterations, usage := (p.after outs).usage
               degradedTools := (p.after outs).degraded })
        .iterationLimitReached
  /-- The next step failed: its error, unchanged. -/
  | failed {e : AgentError} (hlen : outs.length < left)
      (hcall : l.Called req (k + outs.length) (p.after outs).conversation (.error e)) :
      Ends k left p outs (.error e) (.failed e.code)
  /-- The next step finished: its text, with the note on unavailable tools if there were any. -/
  | done {text : String} {appended : List Message} {usage : Usage} (hlen : outs.length < left)
      (hcall : l.Called req (k + outs.length) (p.after outs).conversation
        (.ok (.done text appended usage))) :
      Ends k left p outs
        (.ok { outcome := .done
               response := if (p.after outs).degraded.isEmpty then text
                 else text ++ "\n\n" ++ degradationNote (p.after outs).degraded
               messages := (p.after outs).added ++ appended, iterations := k + outs.length + 1
               usage := (p.after outs).usage.add usage, degradedTools := (p.after outs).degraded })
        .done

variable {l req}

theorem calledInTurn_nil (k : Nat) (p : RunProgress) : l.CalledInTurn req k p [] :=
  fun _ hi => absurd hi (Nat.not_lt_zero _)

theorem CalledInTurn.cons {k : Nat} {p : RunProgress} (hdeg : p.degraded.eraseDups = p.degraded)
    {o : StepOutcome} {outs : List StepOutcome} (hnext : o.isNext = true)
    (hcall : l.Called req k p.conversation (.ok o))
    (hrest : l.CalledInTurn req (k + 1) (p.advance o) outs) :
    l.CalledInTurn req k p (o :: outs) := by
  intro i hi
  cases i with
  | zero => simpa [RunProgress.after_nil hdeg] using ⟨hnext, hcall⟩
  | succ i =>
    obtain ⟨hnext', hcall'⟩ := hrest i (by simpa using hi)
    rw [RunProgress.advance_after hdeg, Nat.add_right_comm] at hcall'
    exact ⟨hnext', by simpa [Nat.add_assoc] using hcall'⟩

theorem Ends.cons {k left : Nat} {p : RunProgress} (hdeg : p.degraded.eraseDups = p.degraded)
    {o : StepOutcome} {outs : List StepOutcome} {r : Except AgentError AgentRun} {s : LoopState}
    (h : l.Ends req (k + 1) left (p.advance o) outs r s) :
    l.Ends req k (left + 1) p (o :: outs) r s := by
  have hk : k + 1 + outs.length = k + (o :: outs).length := by simp; omega
  cases h with
  | limit hlen =>
    rw [RunProgress.advance_after hdeg]
    exact .limit (by simp [hlen])
  | failed hlen hcall =>
    rw [RunProgress.advance_after hdeg, hk] at hcall
    exact .failed (by simp; omega) hcall
  | done hlen hcall =>
    rw [RunProgress.advance_after hdeg, hk] at hcall
    rw [RunProgress.advance_after hdeg, hk]
    exact .done (by simp; omega) hcall

theorem Ends.endState_eq {k left : Nat} {p : RunProgress} {outs : List StepOutcome}
    {r : Except AgentError AgentRun} {s : LoopState} (h : l.Ends req k left p outs r s) :
    endState r = s := by
  cases h <;> rfl

end AgentLoop

/-! ## Runs of the loop's parts -/

namespace Proc.Exec

variable {α β : Type} {w w' : World} {b : β}

theorem of_isCancelled_bind {token : Option Nat} {k : Bool → Action β}
    (h : Exec w ((Action.isCancelled token).bind k) w' (.pure b)) :
    ∃ v : World, Exec v (k (token.any v.cancelled.contains)) w' (.pure b) :=
  of_read h

theorem of_record_bind {e : RuntimeEvent} {k : Unit → Action β}
    (h : Exec w ((Action.record e).bind k) w' (.pure b)) :
    ∃ v : World, Exec (v.recordEvent e) (k ()) w' (.pure b) :=
  of_modify_bind h

theorem of_log_bind {source : LogSource} {level : LogLevel} {message : String}
    {fields : List (String × Json)} {k : Unit → Action β}
    (h : Exec w ((Action.log source level message fields).bind k) w' (.pure b)) :
    ∃ v, Exec v (k ()) w' (.pure b) := by
  obtain ⟨v, hv⟩ := of_modify_bind h
  exact ⟨_, hv⟩

theorem of_within {after : Duration} {body : Action α} {o : Option α}
    (h : Exec w (Action.within after body) w' (.pure o)) :
    o = none ∨ ∃ u v x, Exec u body v (.pure x) ∧ o = some x := by
  obtain ⟨t, ht⟩ := of_read h
  rcases of_first ht with ⟨v, x, u, hx, hk⟩ | ⟨v, y, u, -, hk⟩
  · cases (of_pure hk).2
    exact .inr ⟨t, v, x, hx, rfl⟩
  · cases (of_pure hk).2
    exact .inl rfl

end Proc.Exec

namespace AgentLoop

variable {l : AgentLoop} {req : RunRequest}

/-- A run of the loop: it was cancelled, or the steps that asked for another turn came first and
the loop then ended in one of its three ways. -/
theorem exec_drive {left k : Nat} {p : RunProgress} {w w' : World} {r : Except AgentError AgentRun}
    (hdeg : p.degraded.eraseDups = p.degraded) (h : Exec w (l.drive req k p left) w' (.pure r)) :
    (req.cancel ≠ none ∧ r = .error .cancelled) ∨
      ∃ outs s, l.CalledInTurn req k p outs ∧ l.Ends req k left p outs r s := by
  induction left generalizing k p w with
  | zero =>
    obtain ⟨v, hv⟩ := Exec.of_log_bind h
    cases (Exec.of_pure hv).2
    refine .inr ⟨[], .iterationLimitReached, calledInTurn_nil k p, ?_⟩
    have := @Ends.limit l req k 0 p [] rfl
    rwa [RunProgress.after_nil hdeg] at this
  | succ left ih =>
    rw [drive.eq_2] at h
    obtain ⟨v₀, hgo⟩ := Exec.of_isCancelled_bind h
    by_cases hfired : req.cancel.any v₀.cancelled.contains = true
    · -- the token had fired
      rw [hfired] at hgo
      cases (Exec.of_pure hgo).2
      refine .inl ⟨fun hnone => ?_, rfl⟩
      simp [hnone] at hfired
    rw [Bool.not_eq_true] at hfired
    rw [hfired] at hgo
    obtain ⟨v, hrec⟩ := Exec.of_record_bind hgo
    obtain ⟨w₁, o, hstep, hk⟩ := Exec.of_bind_pure hrec
    have hcall : l.Called req k p.conversation o := ⟨v, w₁, hstep⟩
    rcases o with e | ⟨appended, usage, invoked, degraded⟩ | ⟨text, appended, usage⟩
    · -- the step failed
      cases (Exec.of_pure hk).2
      refine .inr ⟨[], .failed e.code, calledInTurn_nil k p, .failed (Nat.succ_pos _) ?_⟩
      simpa [RunProgress.after_nil hdeg] using hcall
    · -- the step asked for another turn
      rcases ih (p := p.advance (.next appended usage invoked degraded))
        (RunProgress.advance_degraded_eraseDups hdeg _) hk
        with hcancelled | ⟨outs, s, hturns, hends⟩
      · exact .inl hcancelled
      · exact .inr ⟨_, s, hturns.cons hdeg rfl hcall, hends.cons hdeg⟩
    · -- the step finished
      cases (Exec.of_pure hk).2
      refine .inr ⟨[], .done, calledInTurn_nil k p, ?_⟩
      have := @Ends.done l req k (left + 1) p [] text appended usage (Nat.succ_pos _)
        (by simpa [RunProgress.after_nil hdeg] using hcall)
      simpa [RunProgress.after_nil hdeg] using this

variable (l req)

/-- The loop under the request's time bound, its running out of time reported as an error. -/
def bounded : Action (Except AgentError AgentRun) := do
  let r ← Action.within l.requestTimeout (l.drive req 0 (.start req) l.maxIterations)
  Pure.pure (r.getD (.error (.timeout .request l.requestTimeout)))

/-- What a run does once its result is in: it logs a failure, then records the state it ended
in. -/
def finish (result : Except AgentError AgentRun) : Action (Except AgentError AgentRun) :=
  match result with
  | .error e => do
    Action.log .agent .warn "agent run failed" [("scope", .string req.scope), ("error", .string e.display)]
    Action.record (.loopPhase req.scope (endState result))
    Pure.pure result
  | _ => do
    Action.record (.loopPhase req.scope (endState result))
    Pure.pure result

theorem run_eq : l.run req = match req.cancel with
    | none => (l.bounded req).bind (finish req)
    | some token => (Proc.race (l.bounded req) (Proc.waitFor (·.cancelled.contains token))).bind fun
      | .inl r => finish req r
      | .inr () => finish req (.error .cancelled) :=
  rfl

variable {l req}

theorem exec_finish {result r : Except AgentError AgentRun} {w w' : World}
    (h : Exec w (finish req result) w' (.pure r)) :
    r = result ∧ ∃ v : World, w' = v.recordEvent (.loopPhase req.scope (endState result)) := by
  cases result with
  | error e =>
    obtain ⟨v, hv⟩ := Exec.of_log_bind h
    obtain ⟨u, hu⟩ := Exec.of_record_bind hv
    obtain ⟨rfl, hr⟩ := Exec.of_pure hu
    cases hr
    exact ⟨rfl, u, rfl⟩
  | ok run =>
    obtain ⟨u, hu⟩ := Exec.of_record_bind h
    obtain ⟨rfl, hr⟩ := Exec.of_pure hu
    cases hr
    exact ⟨rfl, u, rfl⟩

theorem exec_bounded {w w' : World} {r : Except AgentError AgentRun}
    (h : Exec w (l.bounded req) w' (.pure r)) :
    r = .error (.timeout .request l.requestTimeout) ∨
      ∃ u u', Exec u (l.drive req 0 (.start req) l.maxIterations) u' (.pure r) := by
  obtain ⟨w₁, o, hwithin, hpure⟩ := Exec.of_bind_pure h
  cases (Exec.of_pure hpure).2
  rcases Exec.of_within hwithin with rfl | ⟨u, u', x, hdrive, rfl⟩
  · exact .inl rfl
  · exact .inr ⟨u, u', hdrive⟩

theorem exec_run {w w' : World} {r : Except AgentError AgentRun}
    (h : Exec w (l.run req) w' (.pure r)) :
    (∃ v : World, w' = v.recordEvent (.loopPhase req.scope (endState r))) ∧
      (r = .error (.timeout .request l.requestTimeout) ∨ (req.cancel ≠ none ∧ r = .error .cancelled) ∨
        ∃ u u', Exec u (l.drive req 0 (.start req) l.maxIterations) u' (.pure r)) := by
  rw [run_eq] at h
  cases hcancel : req.cancel with
  | none =>
    rw [hcancel] at h
    obtain ⟨w₁, result, hbounded, hrest⟩ := Exec.of_bind_pure h
    obtain ⟨rfl, hrecorded⟩ := exec_finish hrest
    rcases exec_bounded hbounded with htimeout | hdrive
    · exact ⟨hrecorded, .inl htimeout⟩
    · exact ⟨hrecorded, .inr (.inr hdrive)⟩
  | some token =>
    rw [hcancel] at h
    rcases Exec.of_first h with ⟨v, result, u, hbounded, hrest⟩ | ⟨v, ⟨⟩, u, -, hrest⟩
    · obtain ⟨rfl, hrecorded⟩ := exec_finish hrest
      rcases exec_bounded hbounded with htimeout | hdrive
      · exact ⟨hrecorded, .inl htimeout⟩
      · exact ⟨hrecorded, .inr (.inr hdrive)⟩
    · obtain ⟨rfl, hrecorded⟩ :=
        exec_finish (show Exec u (finish req (.error .cancelled)) w' (.pure r) from hrest)
      exact ⟨hrecorded, .inr (.inl ⟨by simp, rfl⟩)⟩

/-- A run of the loop that cannot be cancelled ran out of time, or its steps answered as
`exec_drive` says for a run from the history and the user message; either way the last thing it
did was to record, for the request's scope, the state it ended in. -/
theorem loop_reports_what_its_steps_answered (hc : req.cancel = none) {w w' : World}
    {r : Except AgentError AgentRun} (h : Exec w (l.run req) w' (.pure r)) :
    ∃ (v : World) (s : LoopState), w' = v.recordEvent (.loopPhase req.scope s) ∧
      ((r = .error (.timeout .request l.requestTimeout) ∧ s = .failed "timeout") ∨
        ∃ outs, l.CalledInTurn req 0 (.start req) outs ∧
          l.Ends req 0 l.maxIterations (.start req) outs r s) := by
  obtain ⟨⟨v, rfl⟩, hends⟩ := exec_run h
  refine ⟨v, _, rfl, ?_⟩
  rcases hends with rfl | ⟨hcancelled, -⟩ | ⟨u, u', hdrive⟩
  · exact .inl ⟨rfl, rfl⟩
  · exact absurd hc hcancelled
  · rcases exec_drive rfl hdrive with ⟨hcancelled, -⟩ | ⟨outs, s, hturns, hends⟩
    · exact absurd hc hcancelled
    · exact .inr ⟨outs, hturns, hends.endState_eq ▸ hends⟩

/-- A loop whose step finds the search tool unavailable at its first iteration and then
answers. -/
def searchThenAnswer : AgentLoop where
  step := fun req => if req.iteration = 0
    then .pure (.ok (.next [Message.assistant "searching"] {} ["search"] ["search"]))
    else .pure (.ok (.done "hi" [Message.assistant "hi"] {}))
  maxIterations := 3
  requestTimeout := Duration.ofMillis 1000

/-- A request that cannot be cancelled, with no history. -/
def helloRequest : RunRequest := { message := "hello", scope := "s" }

/-- The answer after the unavailable search: at the second iteration, with the note. -/
def answerAfterSearch : Except AgentError AgentRun := .ok
  { outcome := .done, response := "hi" ++ "\n\n" ++ degradationNote ["search"]
    messages := [Message.user "hello", Message.assistant "searching", Message.assistant "hi"]
    iterations := 2, usage := {}, degradedTools := ["search"] }

/-- The world after the run: two iterations reported running, then the end. -/
def worldAfterSearch : World :=
  ((({} : World).recordEvent (.loopPhase "s" (.running 0))).recordEvent
    (.loopPhase "s" (.running 1))).recordEvent (.loopPhase "s" .done)

theorem loop_reports_after_unavailable_search :
    helloRequest.cancel = none ∧
      Exec {} (searchThenAnswer.run helloRequest) worldAfterSearch (.pure answerAfterSearch) ∧
      ∃ (v : World) (s : LoopState), worldAfterSearch = v.recordEvent (.loopPhase helloRequest.scope s) ∧
        ((answerAfterSearch = .error (.timeout .request searchThenAnswer.requestTimeout) ∧
            s = .failed "timeout") ∨
          ∃ outs, searchThenAnswer.CalledInTurn helloRequest 0 (.start helloRequest) outs ∧
            searchThenAnswer.Ends helloRequest 0 searchThenAnswer.maxIterations (.start helloRequest) outs
              answerAfterSearch s) := by
  have hexec : Exec {} (searchThenAnswer.run helloRequest) worldAfterSearch (.pure answerAfterSearch) := by
    refine .step .read ?_
    refine .step (.firstLeft .read) ?_
    refine .step (.firstLeft .read) ?_
    refine .step (.firstLeft .write) ?_
    refine .step (.firstLeft .read) ?_
    refine .step (.firstLeft .read) ?_
    refine .step (.firstLeft .write) ?_
    refine .step .firstLeftDone ?_
    refine .step .read ?_
    refine .step .write ?_
    exact .refl
  exact ⟨rfl, hexec, loop_reports_what_its_steps_answered rfl hexec⟩

end AgentLoop

end ResilientAgent
