import Mathlib.Data.List.Forall2
import ResilientAgent.Proofs.Agent.Answers
import ResilientAgent.Proofs.Tools.Routing

/-!
# What a step answers

A step's answer is a function of what the model answered and of how each guarded tool call
ended, whatever order the calls finish in and whether they run side by side, under any
concurrency limit, or one after another (`Step.run_answers`). `StepAnswers` lists the cases: the
model's failure; a finished turn, with the model's text; a request for tools that names none; the
tool turn, answered call by call in request order; and the failure of a critical tool.

What one call contributes is `ToolRouter.answer`: the output when the guarded call succeeded; the
failure's text, as an error, when the arguments were refused or the tool is unknown; and, when an
optional tool failed otherwise, an error saying that the tool is unavailable and why, with the
tool reported as unavailable. A critical tool's failure ends the step.

The proof reads each call's contribution off its dispatch (`dispatch_answer`), and the
contributions of all the calls off the two ways of running them: side by side, where the group
ends with every call's contribution in request order, or with a failure of one of the calls
(`Proc.allOk_answers`); and one after another (`Step.inTurn_answers_calls`).
-/

namespace ResilientAgent

open Proc

/-- The invocation of a call in a request's scope. -/
def ToolCall.invocation (call : ToolCall) (scope : String) : ToolInvocation :=
  ⟨call.id, call.name, call.input, scope⟩

/-- What a dispatched call adds to the conversation, and the tool it found unavailable. -/
def Dispatched.contribution (d : Dispatched) : Message × Option String :=
  (Message.ofToolResult d.result, d.degraded)

namespace ToolRouter

/-- How the guarded call of `inv` can end: some run of it, among whatever else runs, ends so. -/
def CanEnd (tools : ToolRouter) (inv : ToolInvocation) (o : Except Fault ToolOutput) : Prop :=
  ∃ v v' : World, Exec v (tools.call inv) v' (.pure o)

/-- What the model is told of a call, given how its guarded call ended, with the tool it learns
is unavailable, if any. A critical tool's failure ends the step instead. -/
def answer (tools : ToolRouter) (call : ToolCall) :
    Except Fault ToolOutput → Except AgentError (Message × Option String)
  | .ok out => .ok (Message.ofToolResult ⟨call.id, out.content, false⟩, none)
  | .error e =>
    if e.isValidation then .ok (Message.ofToolResult ⟨call.id, e.display, true⟩, none)
    else match tools.criticality call.name with
      | .optional =>
        .ok (Message.ofToolResult ⟨call.id, call.name ++ " unavailable: " ++ failureReason e, true⟩,
          some call.name)
      | .critical => .error (.criticalTool call.name e)

/-- `a` is what a call contributes when its guarded call ends in one of the ways it can. -/
def Answers (tools : ToolRouter) (scope : String) (call : ToolCall)
    (a : Except AgentError (Message × Option String)) : Prop :=
  ∃ o, tools.CanEnd (call.invocation scope) o ∧ tools.answer call o = a

/-- How the calls of a tool turn ended: with every call's contribution, in request order, or with
the failure of one of the calls. -/
def TurnEnds (tools : ToolRouter) (scope : String) (calls : List ToolCall) :
    Except AgentError (List Dispatched) → Prop
  | .ok ds => List.Forall₂ (fun call d => tools.Answers scope call (.ok d.contribution)) calls ds
  | .error e => ∃ call ∈ calls, tools.Answers scope call (.error e)

end ToolRouter

/-- What a step answers, given what the model answered. -/
inductive StepAnswers (tools : ToolRouter) (scope : String) :
    Except Fault ModelResponse → Except AgentError StepOutcome → Prop
  /-- The model failed: its failure, as a failure of the model. -/
  | modelFailed (e : Fault) :
      StepAnswers tools scope (.error e) (.error (AgentError.ofFault e modelDependency))
  /-- The model ended its turn or ran out of tokens: done, with its text. -/
  | finished {response : ModelResponse}
      (hstop : response.stopReason = .endTurn ∨ response.stopReason = .maxTokens) :
      StepAnswers tools scope (.ok response)
        (.ok (.done (response.content.getD "") [Message.assistant (response.content.getD "")]
          response.usage))
  /-- The model asked for tools and named none. -/
  | noCalls {response : ModelResponse} (hstop : response.stopReason = .toolUse)
      (hcalls : response.toolCalls = []) :
      StepAnswers tools scope (.ok response)
        (.error (.modelBehavior "tool_use stop reason without tool calls"))
  /-- Every call was answered: the assistant message, then each call's answer in request order,
  and the tools found unavailable in request order. -/
  | answered {response : ModelResponse} {answers : List (Message × Option String)}
      (hstop : response.stopReason = .toolUse) (hcalls : response.toolCalls ≠ [])
      (hanswers : List.Forall₂ (fun call a => tools.Answers scope call (.ok a))
        response.toolCalls answers) :
      StepAnswers tools scope (.ok response)
        (.ok (.next (response.toMessage :: answers.map (·.1)) response.usage
          (response.toolCalls.map (·.name)) (answers.filterMap (·.2))))
  /-- A critical tool failed other than by refusing its arguments: the step fails with that
  failure, for one of the calls that failed so. -/
  | criticalFailed {response : ModelResponse} {call : ToolCall} {f : Fault}
      (hstop : response.stopReason = .toolUse) (hcall : call ∈ response.toolCalls)
      (hends : tools.CanEnd (call.invocation scope) (.error f)) (hvalid : f.isValidation = false)
      (hcrit : tools.criticality call.name = .critical) :
      StepAnswers tools scope (.ok response) (.error (.criticalTool call.name f))

theorem ToolRouter.answer_eq_error {tools : ToolRouter} {call : ToolCall}
    {o : Except Fault ToolOutput} {e : AgentError} (h : tools.answer call o = .error e) :
    tools.criticality call.name = .critical ∧ ∃ f, o = .error f ∧ f.isValidation = false ∧
      e = .criticalTool call.name f := by
  cases o with
  | ok out => cases h
  | error f =>
    simp only [answer] at h
    split at h
    · cases h
    · rename_i hvalid
      split at h
      · cases h
      · rename_i hcrit
        cases h
        exact ⟨hcrit, f, rfl, by simpa using hvalid, rfl⟩

theorem ToolRouter.canEnd_unknown {tools : ToolRouter} {inv : ToolInvocation}
    {o : Except Fault ToolOutput} (hunknown : tools.contains inv.name = false) :
    tools.CanEnd inv o ↔ o = .error (.tool (.validation ("unknown tool: " ++ inv.name))) := by
  unfold CanEnd
  rw [tools.call_of_index_eq_zero (tools.index_eq_zero_of_contains_eq_false hunknown)]
  constructor
  · rintro ⟨v, v', hv⟩
    exact Exec.eq_of_pure hv
  · rintro rfl
    exact ⟨default, default, .refl⟩

theorem ToolRouter.answers_unknown {tools : ToolRouter} {scope : String} {call : ToolCall}
    {a : Except AgentError (Message × Option String)} (hunknown : tools.contains call.name = false) :
    tools.Answers scope call a ↔ a = .ok (Message.ofToolResult
      ⟨call.id, (Fault.tool (.validation ("unknown tool: " ++ call.name))).display, true⟩, none) := by
  have hvalid : (Fault.tool (.validation ("unknown tool: " ++ call.name))).isValidation = true := rfl
  constructor
  · rintro ⟨o, hend, rfl⟩
    rw [canEnd_unknown hunknown] at hend
    subst hend
    simp [answer, hvalid, ToolCall.invocation]
  · rintro rfl
    exact ⟨_, (canEnd_unknown hunknown).2 rfl, by simp [answer, hvalid, ToolCall.invocation]⟩

theorem ToolDef.ofHandler_answers (name description : String) (parameters : Json)
    (handler : Handler) (inv : ToolInvocation) :
    Returns (fun o => ∀ out, o = .ok out → out.id = inv.id)
      ((ToolDef.ofHandler name description parameters handler).service inv) := by
  intro w w' o h
  simp only [ToolDef.ofHandler] at h
  split at h
  · -- an invocation routed to another name is refused
    cases (Exec.of_pure h).2
    rintro out ⟨⟩
  · obtain ⟨w₁, r, -, hk⟩ := Exec.of_bind_pure h
    cases (Exec.of_pure hk).2
    rintro out hout
    cases r with
    | error e => cases hout
    | ok v =>
      cases hout
      rfl

/-! ## Runs of the parts -/

theorem Proc.Exec.of_through {β : Type} {body : Action β} {name : String} {permits : Nat}
    {w w' : World} {b : β} (h : Exec w (Action.through name permits body) w' (.pure b)) :
    ∃ u u', Exec u body u' (.pure b) := by
  obtain ⟨w₁, ⟨ticket, entered⟩, -, hk⟩ := Exec.of_bind_pure h
  have hholding : ∃ u, Exec u (Action.holding name permits body) w' (.pure b) := by
    cases entered with
    | true => exact ⟨w₁, hk⟩
    | false =>
      obtain ⟨w₂, _, -, hh⟩ := Exec.of_bind_pure hk
      exact ⟨w₂, hh⟩
  obtain ⟨u, hh⟩ := hholding
  obtain ⟨w₂, x, hguard, hrest⟩ := Exec.of_bind_pure hh
  obtain ⟨v, y, u', hy, hk'⟩ := Exec.of_guard hguard
  cases (Exec.of_pure hk').2
  obtain ⟨v', hv'⟩ := Exec.of_modify_bind hrest
  cases (Exec.of_pure hv').2
  exact ⟨_, _, hy⟩

theorem Proc.ite_bind {σ α β : Type} (c : Prop) [Decidable c] (p q : Proc σ α)
    (k : α → Proc σ β) : (if c then p >>= k else q >>= k) = (if c then p else q) >>= k :=
  (apply_ite (· >>= k) c p q).symm

theorem List.error_mem_of_mapM_id {ε β : Type} {rs : List (Except ε β)} {e : ε}
    (h : rs.mapM id = .error e) : .error e ∈ rs := by
  induction rs with
  | nil => cases h
  | cons r rs ih =>
    simp only [List.mapM_cons, id] at h
    cases r with
    | error e' =>
      cases h
      exact List.mem_cons_self
    | ok b =>
      cases hrest : rs.mapM id with
      | error e' =>
        rw [hrest] at h
        cases h
        exact List.mem_cons_of_mem _ (ih hrest)
      | ok bs =>
        rw [hrest] at h
        cases h

variable {tools : ToolRouter}

/-- A dispatched call contributes what its guarded call's ending gives. -/
theorem dispatch_answer (hids : tools.AnswersWithCallId) (call : ToolCall) (scope : String) :
    Returns (fun r => tools.Answers scope call (r.map Dispatched.contribution))
      (dispatch tools call scope) := by
  intro w w' r h
  obtain ⟨w₁, o, hcall, hk⟩ := Exec.of_bind_pure h
  refine ⟨o, ⟨w, w₁, hcall⟩, ?_⟩
  cases o with
  | ok out =>
    cases (Exec.of_pure hk).2
    have hid : out.id = call.id := tools.call_answers hids _ _ _ _ hcall out rfl
    simp [ToolRouter.answer, Dispatched.contribution, Except.map, hid]
  | error e =>
    dsimp only at hk
    split at hk
    · cases (Exec.of_pure hk).2
      rename_i hvalid
      simp [ToolRouter.answer, Dispatched.contribution, Except.map, hvalid]
    · rename_i hvalid
      split at hk
      · rename_i hcrit
        obtain ⟨v, hv⟩ := Exec.of_log_bind hk
        obtain ⟨u, hu⟩ := Exec.of_record_bind hv
        cases (Exec.of_pure hu).2
        simp [ToolRouter.answer, Dispatched.contribution, Except.map, hvalid, hcrit]
      · rename_i hcrit
        cases (Exec.of_pure hk).2
        simp [ToolRouter.answer, Except.map, hvalid, hcrit]

/-- Calls run side by side, each contributing what its guarded call's ending gives, end with
every call's contribution in request order, or with a failure of one of them. -/
theorem Proc.allOk_answers {scope : String} {calls : List ToolCall}
    {ps : List (Action (Except AgentError Dispatched))} (hlen : ps.length = calls.length)
    (hps : ∀ i (hi : i < ps.length),
      Returns (fun r => tools.Answers scope (calls.get ⟨i, hlen ▸ hi⟩) (r.map Dispatched.contribution))
        ps[i]) :
    Returns (tools.TurnEnds scope calls) (Proc.allOk ps) := by
  intro w w' r h
  have hchild : ∀ (i : Fin ps.length) x v, Exec w (ps.get i) v (.pure x) →
      tools.Answers scope (calls.get ⟨i.val, hlen ▸ i.isLt⟩) (x.map Dispatched.contribution) :=
    fun i x v hx => hps i.val i.isLt _ _ _ hx
  rcases Exec.of_join h with ⟨i, x, u, ⟨v, hx⟩, habort, hnext⟩ | ⟨values, hvalues, u, hnext⟩
  · -- a failure ended the group with that failure
    cases x with
    | ok b => cases habort
    | error e =>
      cases (Exec.of_pure hnext).2
      exact ⟨_, List.getElem_mem _, hchild i _ v hx⟩
  · have hr : r = (List.ofFn values).mapM id := (Exec.eq_of_pure hnext)
    cases r with
    | error e =>
      obtain ⟨i, hi⟩ := List.mem_ofFn.1 (List.error_mem_of_mapM_id hr.symm)
      obtain ⟨v, hv⟩ := hvalues i
      rw [hi] at hv
      exact ⟨_, List.getElem_mem _, hchild i _ v hv⟩
    | ok ds =>
      have hvals := List.mapM_id_eq_ok hr.symm
      have hlen' : ds.length = calls.length := by
        simpa [hlen] using (congrArg List.length hvals).symm
      refine List.forall₂_of_length_eq_of_get hlen'.symm fun i hi₁ hi₂ => ?_
      have hi : i < ps.length := hlen ▸ hi₁
      have hvalue : values ⟨i, hi⟩ = .ok ds[i] := by
        have := congrArg (·[i]?) hvals
        simpa [List.getElem?_ofFn, hi, hi₂] using this
      obtain ⟨v, hv⟩ := hvalues ⟨i, hi⟩
      rw [hvalue] at hv
      simpa [Except.map] using hchild ⟨i, hi⟩ _ v hv

namespace Step

variable {s : Step}

theorem fanOut_answers_calls (hids : s.tools.AnswersWithCallId) (calls : List ToolCall)
    (scope : String) : Returns (s.tools.TurnEnds scope calls) (s.fanOut calls scope) := by
  intro w w' r h
  obtain ⟨w₁, gate, -, hk⟩ := Exec.of_bind_pure h
  cases hc : s.toolConcurrency with
  | some limit =>
    simp only [hc] at hk
    refine Proc.allOk_answers (by simp) (fun i hi => ?_) _ _ _ hk
    simpa using Returns.through (dispatch_answer hids _ scope) _ _
  | none =>
    simp only [hc] at hk
    exact Proc.allOk_answers (by simp) (fun i hi => by simpa using dispatch_answer hids _ scope)
      _ _ _ hk

/-- Calls run one after another end with every call's contribution in request order, or with
the failure of the first call that failed. -/
theorem inTurn_answers_calls (hids : s.tools.AnswersWithCallId) (scope : String) :
    ∀ calls, Returns (s.tools.TurnEnds scope calls) (s.inTurn scope calls)
  | [] => by
    intro w w' r h
    cases (Exec.of_pure h).2
    exact .nil
  | call :: rest => by
    intro w w' r h
    obtain ⟨w₁, o, hcall, hk⟩ := Exec.of_bind_pure h
    have hfirst := dispatch_answer hids call scope _ _ _ hcall
    cases o with
    | error e =>
      cases (Exec.of_pure hk).2
      exact ⟨call, List.mem_cons_self, hfirst⟩
    | ok d =>
      obtain ⟨w₂, o', hrest, hk'⟩ := Exec.of_bind_pure hk
      have hturn := inTurn_answers_calls hids scope rest _ _ _ hrest
      cases o' with
      | error e =>
        cases (Exec.of_pure hk').2
        obtain ⟨c, hc, hanswer⟩ := hturn
        exact ⟨c, List.mem_cons_of_mem _ hc, hanswer⟩
      | ok ds =>
        cases (Exec.of_pure hk').2
        exact .cons hfirst hturn

theorem runCalls_answers (hids : s.tools.AnswersWithCallId) (calls : List ToolCall)
    (scope : String) :
    Returns (s.tools.TurnEnds scope calls)
      (if calls.length > 1 && s.parallelTools then s.fanOut calls scope
       else s.inTurn scope calls) := by
  split
  · exact fanOut_answers_calls hids calls scope
  · exact inTurn_answers_calls hids scope calls

/-- Whatever the model answers, whatever order the calls finish in and however they run, the
step answers as `StepAnswers` says of the model's answer and of how each guarded call ended. -/
theorem run_answers (hids : s.tools.AnswersWithCallId) (req : StepRequest) :
    Returns (fun r => ∃ m, (∃ v v' : World, Exec v (s.model
        { system := s.system, messages := req.messages, tools := s.tools.specs
          maxTokens := s.maxTokens, temperature := s.temperature }) v' (.pure m)) ∧
      StepAnswers s.tools req.scope m r) (s.run req) := by
  intro w w' r h
  obtain ⟨w₁, m, hmodel, hk⟩ := Exec.of_bind_pure h
  refine ⟨m, ⟨w, w₁, hmodel⟩, ?_⟩
  cases m with
  | error e =>
    cases (Exec.of_pure hk).2
    exact .modelFailed e
  | ok response =>
    dsimp only at hk
    split at hk
    · rename_i hstop
      cases (Exec.of_pure hk).2
      exact .finished (.inl hstop)
    · rename_i hstop
      cases (Exec.of_pure hk).2
      exact .finished (.inr hstop)
    · rename_i hstop
      split at hk
      · rename_i hempty
        cases (Exec.of_pure hk).2
        exact .noCalls hstop (by simpa using hempty)
      · rename_i hempty
        have hcalls : response.toolCalls ≠ [] := by simpa using hempty
        obtain ⟨v, hv⟩ := Exec.of_record_bind hk
        rw [Proc.ite_bind] at hv
        obtain ⟨u, d, hd, hk'⟩ := Exec.of_bind_pure hv
        have hends := runCalls_answers hids _ _ _ _ _ hd
        cases d with
        | error e =>
          cases (Exec.of_pure hk').2
          obtain ⟨call, hcall, o, hend, hfailed⟩ := hends
          obtain ⟨hcrit, f, rfl, hvalid, rfl⟩ := ToolRouter.answer_eq_error hfailed
          exact .criticalFailed hstop hcall hend hvalid hcrit
        | ok ds =>
          cases (Exec.of_pure hk').2
          have hanswered :=
            StepAnswers.answered hstop hcalls (List.forall₂_map_right_iff.2 hends)
          simpa [Dispatched.contribution, Function.comp_def, List.filterMap_map] using hanswered

/-- A step whose model asks, in one turn, for the `echo` tool and for a tool nobody
registered. -/
def echoAndUnknown : Step where
  model := fun _ => .pure (.ok
    { content := none, toolCalls := [⟨"c1", "echo", .null⟩, ⟨"c2", "lookup", .null⟩]
      stopReason := .toolUse })
  tools := .new [ToolDef.ofHandler "echo" "Echoes its arguments."
    (.object [("type", .string "object")]) fun args => .pure (.ok args)]

theorem echo_and_unknown_answers :
    echoAndUnknown.tools.AnswersWithCallId ∧
      Returns (fun r => ∃ m, (∃ v v' : World, Exec v (echoAndUnknown.model
          { system := echoAndUnknown.system, messages := [Message.user "hi"]
            tools := echoAndUnknown.tools.specs, maxTokens := echoAndUnknown.maxTokens
            temperature := echoAndUnknown.temperature }) v' (.pure m)) ∧
        StepAnswers echoAndUnknown.tools "s" m r)
        (echoAndUnknown.run ⟨[Message.user "hi"], "s", 0⟩) := by
  have hids : echoAndUnknown.tools.AnswersWithCallId := by
    intro svc hsvc inv
    simp only [echoAndUnknown, ToolRouter.new, List.map_cons, List.map_nil, List.mem_cons,
      List.not_mem_nil, or_false] at hsvc
    rcases hsvc with rfl | rfl
    · rintro w w' o h out rfl
      cases (Exec.of_pure h).2
    · exact ToolDef.ofHandler_answers _ _ _ _ inv
  exact ⟨hids, run_answers hids ⟨[Message.user "hi"], "s", 0⟩⟩

end Step

end ResilientAgent
