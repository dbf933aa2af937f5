import ResilientAgent.Proofs.Agent.Loop
import ResilientAgent.Proofs.Conversation.WellFormed

/-!
# Every tool call answered, in order

When the model asks for tools, the step runs every call and hands back the assistant message
with one result message per call. If each tool answers with the id of the call it was given
(`ToolRouter.AnswersWithCallId`), the results answer the calls in order, whether the calls ran
side by side (`Step.fanOut_answers`) or one after another (`Step.inTurn_answers`), and whatever
else ran meanwhile. So what a step appends is tool-well-formed (`Step.run_appends_wellFormed`),
and so are the messages of every run of a loop over such a step, which start with the user
message (`AgentLoop.run_messages_wellFormed`).
-/

namespace ResilientAgent

open Proc

/-- Every service of the router answers a call with the call's id. -/
def ToolRouter.AnswersWithCallId (r : ToolRouter) : Prop :=
  ∀ svc ∈ r.services, ∀ inv, Returns (fun o => ∀ out, o = .ok out → out.id = inv.id) (svc inv)

/-- Results that answer the calls, one per call, in order. -/
def AnswersCalls (calls : List ToolCall) (r : Except AgentError (List Dispatched)) : Prop :=
  ∀ ds, r = .ok ds → ds.map (·.result.toolCallId) = calls.map (·.id)

theorem List.mapM_id_eq_ok {ε β : Type} {rs : List (Except ε β)} {ds : List β}
    (h : rs.mapM id = .ok ds) : rs = ds.map .ok := by
  induction rs generalizing ds with
  | nil =>
    simp only [List.mapM_nil] at h
    cases h
    rfl
  | cons r rs ih =>
    simp only [List.mapM_cons, id] at h
    cases r with
    | error e => cases h
    | ok b =>
      cases hrest : rs.mapM id with
      | error e =>
        rw [hrest] at h
        cases h
      | ok bs =>
        rw [hrest] at h
        cases Except.ok.inj h
        simp [ih hrest]

namespace ToolRouter

theorem call_answers {r : ToolRouter} (hids : r.AnswersWithCallId) (inv : ToolInvocation) :
    Returns (fun o => ∀ out, o = .ok out → out.id = inv.id) (r.call inv) :=
  hids _ (List.get_mem _ _) inv

end ToolRouter

variable {tools : ToolRouter}

theorem dispatch_answers (hids : tools.AnswersWithCallId) (call : ToolCall) (scope : String) :
    Returns (fun r => ∀ d, r = .ok d → d.result.toolCallId = call.id)
      (dispatch tools call scope) := by
  intro w w' r h
  obtain ⟨w₁, o, hcall, hk⟩ := Exec.of_bind_pure h
  have hid := tools.call_answers hids _ _ _ _ hcall
  rintro d rfl
  cases o with
  | ok out =>
    cases (Exec.of_pure hk).2
    exact hid out rfl
  | error e =>
    dsimp only at hk
    split at hk
    · cases (Exec.of_pure hk).2
      rfl
    · split at hk
      · obtain ⟨v, hv⟩ := Exec.of_log_bind hk
        obtain ⟨u, hu⟩ := Exec.of_record_bind hv
        cases (Exec.of_pure hu).2
        rfl
      · cases (Exec.of_pure hk).2

theorem Returns.through {β : Type} {P : β → Prop} {body : Action β} (hbody : Returns P body)
    (name : String) (permits : Nat) : Returns P (Action.through name permits body) := by
  intro w w' b h
  obtain ⟨w₁, ⟨ticket, entered⟩, -, hk⟩ := Exec.of_bind_pure h
  have hholding : ∃ u, Exec u (Action.holding name permits body) w' (.pure b) := by
    cases entered with
    | true => exact ⟨w₁, hk⟩
    | false =>
      obtain ⟨w₂, _, -, hh⟩ := Exec.of_bind_pure hk
      exact ⟨w₂, hh⟩
  obtain ⟨u, hh⟩ := hholding
  obtain ⟨w₂, x, hguard, hrest⟩ := Exec.of_bind_pure hh
  obtain ⟨v, y, u', hy, hk'⟩ := Exec.of_guard hguard
  cases (Exec.of_pure hk').2
  obtain ⟨v', hv'⟩ := Exec.of_modify_bind hrest
  cases (Exec.of_pure hv').2
  exact hbody _ _ _ hy

namespace Step

variable {s : Step}

theorem fanOut_answers (hids : s.tools.AnswersWithCallId) (calls : List ToolCall) (scope : String) :
    Returns (AnswersCalls calls) (s.fanOut calls scope) := by
  intro w w' r h
  obtain ⟨w₁, gate, -, hk⟩ := Exec.of_bind_pure h
  rintro ds rfl
  rcases Exec.of_join hk with ⟨i, x, u, -, habort, hnext⟩ | ⟨values, hvalues, u, hnext⟩
  · -- a failure ends the group with that failure
    cases x with
    | error e => cases (Exec.of_pure hnext).2
    | ok b => cases habort
  · have hdone : Exec u (.pure ((List.ofFn values).mapM id)) w' (.pure (.ok ds)) := hnext
    have hvals := List.mapM_id_eq_ok (Exec.eq_of_pure hdone).symm
    have hlen : ds.length = calls.length := by
      simpa using (congrArg List.length hvals).symm
    apply List.ext_getElem (by simp [hlen])
    intro i hi₁ hi₂
    have hi : i < calls.length := by simpa using hi₂
    have hi' : i < ds.length := by simpa using hi₁
    have hvalue : values ⟨i, by simpa using hi⟩ = .ok ds[i] := by
      have := congrArg (·[i]?) hvals
      simpa [List.getElem?_ofFn, hi, hi'] using this
    obtain ⟨v, hv⟩ := hvalues ⟨i, by simpa using hi⟩
    rw [hvalue] at hv
    simp only [List.get_eq_getElem, List.getElem_map] at hv
    have hid : ds[i].result.toolCallId = calls[i].id := by
      cases hc : s.toolConcurrency with
      | some limit =>
        rw [hc] at hv
        exact Returns.through (dispatch_answers hids _ scope) _ _ _ _ _ hv _ rfl
      | none =>
        rw [hc] at hv
        exact dispatch_answers hids _ scope _ _ _ hv _ rfl
    simpa using hid

theorem inTurn_answers (hids : s.tools.AnswersWithCallId) (scope : String) :
    ∀ calls, Returns (AnswersCalls calls) (s.inTurn scope calls)
  | [] => by
    intro w w' r h
    cases (Exec.of_pure h).2
    rintro ds ⟨⟩
    rfl
  | call :: rest => by
    intro w w' r h
    obtain ⟨w₁, o, hcall, hk⟩ := Exec.of_bind_pure h
    rintro ds rfl
    cases o with
    | error e => cases (Exec.of_pure hk).2
    | ok d =>
      obtain ⟨w₂, o', hrest, hk'⟩ := Exec.of_bind_pure hk
      cases o' with
      | error e => cases (Exec.of_pure hk').2
      | ok ds' =>
        cases (Exec.of_pure hk').2
        simp [dispatch_answers hids call scope _ _ _ hcall d rfl,
          inTurn_answers hids scope rest _ _ _ hrest ds' rfl]

theorem toolTurn_wellFormed {response : ModelResponse} (hcalls : response.toolCalls ≠ [])
    {ds : List Dispatched} (hds : AnswersCalls response.toolCalls (.ok ds)) :
    ToolWellFormed (response.toMessage :: ds.map (Message.ofToolResult ·.result)) := by
  have hblock :=
    @ToolWellFormed.block response.toMessage (ds.map (Message.ofToolResult ·.result)) []
      rfl hcalls
      (by simpa [Function.comp_def, Message.ofToolResult, ModelResponse.toMessage,
        Message.assistantWithToolCalls] using congrArg (List.map some) (hds ds rfl))
      (by simp [Message.ofToolResult]) .nil
  simpa using hblock

/-- What a step appends is tool-well-formed, when its tools answer with their calls' ids. -/
theorem run_appends_wellFormed (hids : s.tools.AnswersWithCallId) (req : StepRequest) :
    Returns (fun r => ∀ o, r = .ok o → ToolWellFormed o.appended) (s.run req) := by
  intro w w' r h
  rintro o rfl
  obtain ⟨w₁, m, -, hk⟩ := Exec.of_bind_pure h
  have hplain : ∀ text, ToolWellFormed [Message.assistant text] :=
    fun _ => .plain (by simp [Message.assistant]) (fun _ => rfl) .nil
  cases m with
  | error e => cases (Exec.of_pure hk).2
  | ok response =>
    dsimp only at hk
    split at hk
    · cases (Exec.of_pure hk).2
      exact hplain _
    · cases (Exec.of_pure hk).2
      exact hplain _
    · split at hk
      · cases (Exec.of_pure hk).2
      · rename_i hempty
        have hcalls : response.toolCalls ≠ [] := by simpa using hempty
        obtain ⟨v, hv⟩ := Exec.of_record_bind hk
        split at hv
        · obtain ⟨w₂, d, hd, hk'⟩ := Exec.of_bind_pure hv
          cases d with
          | error e => cases (Exec.of_pure hk').2
          | ok ds =>
            cases (Exec.of_pure hk').2
            exact toolTurn_wellFormed hcalls (fanOut_answers hids _ _ _ _ _ hd)
        · obtain ⟨w₂, d, hd, hk'⟩ := Exec.of_bind_pure hv
          cases d with
          | error e => cases (Exec.of_pure hk').2
          | ok ds =>
            cases (Exec.of_pure hk').2
            exact toolTurn_wellFormed hcalls (inTurn_answers hids _ _ _ _ _ hd)

end Step

namespace AgentLoop

variable {l : AgentLoop} {req : RunRequest}

theorem toolWellFormed_flatMap {outs : List StepOutcome}
    (h : ∀ o ∈ outs, ToolWellFormed o.appended) :
    ToolWellFormed (outs.flatMap StepOutcome.appended) := by
  induction outs with
  | nil => exact .nil
  | cons o outs ih =>
    rw [List.flatMap_cons]
    exact (h o (by simp)).append (ih fun o' ho' => h o' (by simp [ho']))

/-- The messages of a run: the user message, then what its steps appended, each tool-well-formed
when the step's own appends are. -/
theorem run_messages_wellFormed
    (hstep : ∀ sr,
      Returns (fun r => ∀ o, r = .ok o → ToolWellFormed o.appended) (l.step sr)) :
    Returns (fun r => ∀ run, r = .ok run →
      (∃ rest, run.messages = Message.user req.message :: rest) ∧ ToolWellFormed run.messages)
      (l.run req) := by
  intro w w' r h
  rintro run rfl
  rcases (exec_run h).2 with htimeout | ⟨-, hcancelled⟩ | ⟨u, u', hdrive⟩
  · cases htimeout
  · cases hcancelled
  rcases exec_drive rfl hdrive with ⟨-, hcancelled⟩ | ⟨outs, s, hturns, hends⟩
  · cases hcancelled
  have houts : ∀ o ∈ outs, ToolWellFormed o.appended := by
    intro o ho
    obtain ⟨i, hi, rfl⟩ := List.getElem_of_mem ho
    obtain ⟨-, v, v', hcall⟩ := hturns i hi
    exact hstep _ _ _ _ hcall _ rfl
  have huser : ToolWellFormed ([Message.user req.message] ++ outs.flatMap StepOutcome.appended) :=
    .plain (by simp [Message.user]) (by simp [Message.user]) (toolWellFormed_flatMap houts)
  have hlast : ∀ text, ToolWellFormed [Message.assistant text] :=
    fun _ => .plain (by simp [Message.assistant]) (fun _ => rfl) .nil
  cases hends with
  | limit hlen =>
    refine ⟨⟨_, rfl⟩, ?_⟩
    simpa [RunProgress.after, RunProgress.start] using huser.append (hlast _)
  | done hlen hcall =>
    obtain ⟨v, v', hexec⟩ := hcall
    refine ⟨⟨_, rfl⟩, ?_⟩
    simpa [RunProgress.after, RunProgress.start, StepOutcome.appended] using
      huser.append (hstep _ _ _ _ hexec _ rfl)

end AgentLoop

end ResilientAgent
