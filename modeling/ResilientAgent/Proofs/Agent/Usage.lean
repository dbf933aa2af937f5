import Mathlib
import ResilientAgent.Proofs.Agent.Loop
import ResilientAgent.Proofs.Agent.StepAnswers

/-!
# The tokens a run reports

Token counts are 64-bit words, and adding them wraps: the counts of several answers added up
one by one are their sums modulo `2^64`, and so is the total of a count
(`Usage.sum_inputTokens`, `Usage.sum_outputTokens`, `Usage.sum_total`).

A step hands on the counts of the model's answer it was built from (`Step.run_usage`), and a
run of the loop that ends with an answer adds up the counts of the steps it took, one per
iteration (`AgentLoop.run_usage_eq_sum`). So a run reports, for the answers the model gave it,
their input and output tokens and their total, each modulo `2^64`
(`run_usage_adds_up_responses`). The counts are exact while the sums stay below `2^64`, and
nothing keeps them there: a model may report any count. Two answers of `2^64 - 1` and `1`
input tokens make a run that reports none (`two_answers_wrap_input_tokens`).
-/

namespace ResilientAgent

open Proc

/-! ## Counts in words -/

namespace Usage

/-- The counts of several answers added up from nothing, as the loop adds them. -/
def sum (us : List Usage) : Usage := us.foldl add {}

theorem wordAdd_eq (a b : Nat) : wordAdd a b = (a + b) % 2 ^ 64 := rfl

theorem foldl_wordAdd {a : Nat} (ha : a < 2 ^ 64) (ns : List Nat) :
    ns.foldl wordAdd a = (a + ns.sum) % 2 ^ 64 := by
  -- induction on the words still to add, from any word
  induction ns generalizing a with
  | nil => exact (Nat.mod_eq_of_lt ha).symm
  | cons n ns ih =>
    rw [List.foldl_cons, wordAdd_eq, ih (Nat.mod_lt _ (Nat.two_pow_pos 64))]
    simp only [List.sum_cons, Nat.mod_add_mod, Nat.add_assoc]

theorem sum_inputTokens (us : List Usage) :
    (sum us).inputTokens = (us.map (·.inputTokens)).sum % 2 ^ 64 := by
  have hfold : (sum us).inputTokens =
      (us.map (·.inputTokens)).foldl wordAdd ({} : Usage).inputTokens := by
    rw [List.foldl_map, sum]
    exact (List.foldl_hom inputTokens fun _ _ => rfl).symm
  rw [hfold, foldl_wordAdd (Nat.two_pow_pos 64)]
  simp

theorem sum_outputTokens (us : List Usage) :
    (sum us).outputTokens = (us.map (·.outputTokens)).sum % 2 ^ 64 := by
  have hfold : (sum us).outputTokens =
      (us.map (·.outputTokens)).foldl wordAdd ({} : Usage).outputTokens := by
    rw [List.foldl_map, sum]
    exact (List.foldl_hom outputTokens fun _ _ => rfl).symm
  rw [hfold, foldl_wordAdd (Nat.two_pow_pos 64)]
  simp

/-- The total of counts added up is the sum of all of them, modulo `2^64`. -/
theorem sum_total (us : List Usage) :
    (sum us).total = ((us.map (·.inputTokens)).sum + (us.map (·.outputTokens)).sum) % 2 ^ 64 := by
  rw [total, wordAdd_eq, sum_inputTokens, sum_outputTokens, Nat.add_mod_mod, Nat.mod_add_mod]

end Usage

/-! ## What a step hands on -/

namespace Step

/-- The request a step sends the model for a conversation. -/
def modelRequest (s : Step) (messages : List Message) : ModelRequest :=
  { system := s.system, messages, tools := s.tools.specs, maxTokens := s.maxTokens
    temperature := s.temperature }

/-- A step that finishes hands on the counts of the model's answer it was built from. -/
theorem run_usage (s : Step) (req : StepRequest) :
    Returns (fun r => ∀ o, r = .ok o → ∃ response : ModelResponse,
      (∃ v v' : World, Exec v (s.model (s.modelRequest req.messages)) v' (.pure (.ok response))) ∧
        o.usage = response.usage) (s.run req) := by
  rintro w w' r h o rfl
  obtain ⟨w₁, m, hmodel, hk⟩ := Exec.of_bind_pure h
  cases m with
  | error e => cases (Exec.of_pure hk).2
  | ok response =>
    refine ⟨response, ⟨w, w₁, hmodel⟩, ?_⟩
    dsimp only at hk
    split at hk
    · -- the model ended its turn
      cases (Exec.of_pure hk).2
      rfl
    · -- the model ran out of tokens
      cases (Exec.of_pure hk).2
      rfl
    · -- the model asked for tools: whatever the calls did, the tokens are the model's
      split at hk
      · cases (Exec.of_pure hk).2
      · obtain ⟨v, hv⟩ := Exec.of_record_bind hk
        rw [Proc.ite_bind] at hv
        obtain ⟨u, d, -, hk'⟩ := Exec.of_bind_pure hv
        cases d with
        | error e => cases (Exec.of_pure hk').2
        | ok ds =>
          cases (Exec.of_pure hk').2
          rfl

end Step

/-! ## What a run adds up -/

theorem exists_list_of_forall_lt {β : Type} {n : Nat} {P : Nat → β → Prop}
    (h : ∀ i < n, ∃ b, P i b) : ∃ bs : List β, bs.length = n ∧ ∀ i (hi : i < bs.length), P i bs[i] := by
  refine ⟨List.ofFn fun i : Fin n => Classical.choose (h i i.2), by simp, fun i hi => ?_⟩
  simp only [List.getElem_ofFn]
  exact Classical.choose_spec (h i (by simpa using hi))

namespace AgentLoop

variable {l : AgentLoop} {req : RunRequest}

/-- A run that ends with an answer took one step per iteration, each called by the loop and each
finished, and reports their counts added up. -/
theorem run_usage_eq_sum {w w' : World} {run : AgentRun} (h : Exec w (l.run req) w' (.pure (.ok run))) :
    ∃ outs : List StepOutcome, outs.length = run.iterations ∧
      (∀ i (hi : i < outs.length), ∃ messages, l.Called req i messages (.ok outs[i])) ∧
      run.usage = Usage.sum (outs.map StepOutcome.usage) := by
  obtain ⟨-, hends⟩ := exec_run h
  rcases hends with htimeout | ⟨-, hcancelled⟩ | ⟨u, u', hdrive⟩
  · cases htimeout
  · cases hcancelled
  rcases exec_drive rfl hdrive with ⟨-, hcancelled⟩ | ⟨outs, s, hturns, hends⟩
  · cases hcancelled
  have hcalled : ∀ i (hi : i < outs.length), ∃ messages, l.Called req i messages (.ok outs[i]) :=
    fun i hi => ⟨_, by simpa using (hturns i hi).2⟩
  cases hends with
  | limit hlen =>
    refine ⟨outs, hlen, hcalled, ?_⟩
    simp [RunProgress.after, RunProgress.start, Usage.sum, List.foldl_map]
  | done hlen hcall =>
    rename_i text appended usage
    refine ⟨outs ++ [.done text appended usage], by simp, fun i hi => ?_, ?_⟩
    · rcases Nat.lt_or_ge i outs.length with hlt | hge
      · simpa [List.getElem_append_left hlt] using hcalled i hlt
      · have hi' : i = outs.length := by simp at hi; omega
        subst hi'
        exact ⟨_, by simpa using hcall⟩
    · simp [RunProgress.after, RunProgress.start, Usage.sum, List.foldl_map, StepOutcome.usage]

theorem exists_responses {s : Step} {maxIterations : Nat} {requestTimeout : Duration}
    {outs : List StepOutcome}
    (hcalled : ∀ i (hi : i < outs.length), ∃ messages,
      (⟨s.run, maxIterations, requestTimeout⟩ : AgentLoop).Called req i messages (.ok outs[i])) :
    ∃ responses : List ModelResponse, responses.length = outs.length ∧
      (∀ i (hi : i < responses.length), ∃ messages o,
        (⟨s.run, maxIterations, requestTimeout⟩ : AgentLoop).Called req i messages (.ok o) ∧
        (∃ v v' : World, Exec v (s.model (s.modelRequest messages)) v' (.pure (.ok responses[i]))) ∧
        o.usage = responses[i].usage) ∧
      outs.map StepOutcome.usage = responses.map (·.usage) := by
  have hanswered : ∀ i < outs.length, ∃ response : ModelResponse, ∃ hi : i < outs.length,
      (∃ messages, (⟨s.run, maxIterations, requestTimeout⟩ : AgentLoop).Called req i messages
          (.ok outs[i]) ∧
        ∃ v v' : World, Exec v (s.model (s.modelRequest messages)) v' (.pure (.ok response))) ∧
      outs[i].usage = response.usage := by
    intro i hi
    obtain ⟨messages, v, v', hstep⟩ := hcalled i hi
    obtain ⟨response, hmodel, hsame⟩ := Step.run_usage s _ _ _ _ hstep _ rfl
    exact ⟨response, hi, ⟨messages, ⟨v, v', hstep⟩, hmodel⟩, hsame⟩
  obtain ⟨responses, hlength, hat⟩ := exists_list_of_forall_lt hanswered
  refine ⟨responses, hlength, fun i hi => ?_, ?_⟩
  · obtain ⟨_, ⟨messages, hstep, hmodel⟩, hsame⟩ := hat i hi
    exact ⟨messages, _, hstep, hmodel, hsame⟩
  · refine List.ext_getElem (by simp [hlength]) fun i _ hi => ?_
    obtain ⟨_, -, hsame⟩ := hat i (by simpa using hi)
    simpa using hsame

end AgentLoop

/-- The input tokens the model reported in its answers, added up exactly. -/
def inputTokensOf (responses : List ModelResponse) : Nat :=
  (responses.map (·.usage.inputTokens)).sum

/-- The output tokens the model reported in its answers, added up exactly. -/
def outputTokensOf (responses : List ModelResponse) : Nat :=
  (responses.map (·.usage.outputTokens)).sum

/-- A run of the loop over a step that ends with an answer consumed one answer of the model per
iteration, in the step the loop called at that iteration, and reports the input and output
tokens of those answers and their total, each added up modulo `2^64`; exactly, when all the
tokens add up to less than `2^64`. -/
theorem run_usage_adds_up_responses {s : Step} {maxIterations : Nat} {requestTimeout : Duration}
    {req : RunRequest} {w w' : World} {run : AgentRun}
    (h : Exec w ((⟨s.run, maxIterations, requestTimeout⟩ : AgentLoop).run req) w' (.pure (.ok run))) :
    ∃ responses : List ModelResponse, responses.length = run.iterations ∧
      (∀ i (hi : i < responses.length), ∃ messages o,
        (⟨s.run, maxIterations, requestTimeout⟩ : AgentLoop).Called req i messages (.ok o) ∧
        (∃ v v' : World, Exec v (s.model (s.modelRequest messages)) v' (.pure (.ok responses[i]))) ∧
        o.usage = responses[i].usage) ∧
      run.usage.inputTokens = inputTokensOf responses % 2 ^ 64 ∧
      run.usage.outputTokens = outputTokensOf responses % 2 ^ 64 ∧
      run.usage.total = (inputTokensOf responses + outputTokensOf responses) % 2 ^ 64 ∧
      (inputTokensOf responses + outputTokensOf responses < 2 ^ 64 →
        run.usage.inputTokens = inputTokensOf responses ∧
        run.usage.outputTokens = outputTokensOf responses ∧
        run.usage.total = inputTokensOf responses + outputTokensOf responses) := by
  obtain ⟨outs, hlen, hcalled, husage⟩ := AgentLoop.run_usage_eq_sum h
  obtain ⟨responses, hlength, hanswers, husages⟩ := AgentLoop.exists_responses hcalled
  have hinput : run.usage.inputTokens = inputTokensOf responses % 2 ^ 64 := by
    rw [husage, husages, Usage.sum_inputTokens, List.map_map]
    rfl
  have houtput : run.usage.outputTokens = outputTokensOf responses % 2 ^ 64 := by
    rw [husage, husages, Usage.sum_outputTokens, List.map_map]
    rfl
  have htotal : run.usage.total = (inputTokensOf responses + outputTokensOf responses) % 2 ^ 64 := by
    rw [husage, husages, Usage.sum_total, List.map_map, List.map_map]
    rfl
  refine ⟨responses, hlength.trans hlen, hanswers, hinput, houtput, htotal, fun hbound => ?_⟩
  refine ⟨?_, ?_, ?_⟩
  · rw [hinput, Nat.mod_eq_of_lt (by omega)]
  · rw [houtput, Nat.mod_eq_of_lt (by omega)]
  · rw [htotal, Nat.mod_eq_of_lt hbound]

/-! ## Runs on fixed answers -/

/-- A step whose model answers at once, with 3 input and 4 output tokens. -/
def answerStep : Step where
  model := fun _ => Pure.pure (.ok { ModelResponse.endTurn "hi" with usage := ⟨3, 4⟩ })
  tools := .new []

/-- The loop over `answerStep`, three iterations allowed within a second. -/
def answerLoop : AgentLoop := ⟨answerStep.run, 3, Duration.ofMillis 1000⟩

/-- The run of `answerLoop`: one iteration, the model's tokens. -/
def answerRun : AgentRun :=
  { outcome := .done, response := "hi", messages := [Message.user "hello", Message.assistant "hi"]
    iterations := 1, usage := ⟨3, 4⟩, degradedTools := [] }

/-- The world after `answerRun`: the iteration reported running, then the end. -/
def answerWorld : World :=
  (({} : World).recordEvent (.loopPhase "s" (.running 0))).recordEvent (.loopPhase "s" .done)

theorem one_answer_run_reports_its_tokens :
    Exec {} (answerLoop.run AgentLoop.helloRequest) answerWorld (.pure (.ok answerRun)) ∧
      ∃ responses : List ModelResponse, responses.length = answerRun.iterations ∧
        (∀ i (hi : i < responses.length), ∃ messages o,
          answerLoop.Called AgentLoop.helloRequest i messages (.ok o) ∧
          (∃ v v' : World,
            Exec v (answerStep.model (answerStep.modelRequest messages)) v' (.pure (.ok responses[i]))) ∧
          o.usage = responses[i].usage) ∧
        answerRun.usage.inputTokens = inputTokensOf responses % 2 ^ 64 ∧
        answerRun.usage.outputTokens = outputTokensOf responses % 2 ^ 64 ∧
        answerRun.usage.total = (inputTokensOf responses + outputTokensOf responses) % 2 ^ 64 ∧
        (inputTokensOf responses + outputTokensOf responses < 2 ^ 64 →
          answerRun.usage.inputTokens = inputTokensOf responses ∧
          answerRun.usage.outputTokens = outputTokensOf responses ∧
          answerRun.usage.total = inputTokensOf responses + outputTokensOf responses) := by
  have hexec : Exec {} (answerLoop.run AgentLoop.helloRequest) answerWorld (.pure (.ok answerRun)) := by
    refine .step .read ?_
    refine .step (.firstLeft .read) ?_
    refine .step (.firstLeft .read) ?_
    refine .step (.firstLeft .write) ?_
    refine .step .firstLeftDone ?_
    refine .step .read ?_
    refine .step .write ?_
    exact .refl
  exact ⟨hexec, run_usage_adds_up_responses hexec⟩

/-- A tool that notes its call and answers `saved`. -/
def noteTool : ToolDef :=
  ToolDef.ofHandler "note" "Note" (.object [("type", .string "object")]) fun _ =>
    Pure.pure (.ok (.string "saved"))

/-- An answer asking for the tool once, with `2^64 - 1` input tokens. -/
def wrapToolTurn : ModelResponse :=
  { ModelResponse.toolUse [⟨"c1", "note", .object []⟩] with usage := ⟨2 ^ 64 - 1, 0⟩ }

/-- The final answer, with one input token. -/
def wrapFinalAnswer : ModelResponse := { ModelResponse.endTurn "done" with usage := ⟨1, 0⟩ }

/-- A step whose model asks for the tool on the user message alone and answers otherwise. -/
def wrapStep : Step where
  model := fun req =>
    Pure.pure (.ok (if req.messages.length = 1 then wrapToolTurn else wrapFinalAnswer))
  tools := .new [noteTool]

/-- The loop over `wrapStep`, three iterations allowed within a second. -/
def wrapLoop : AgentLoop := ⟨wrapStep.run, 3, Duration.ofMillis 1000⟩

/-- A request that cannot be cancelled, with no history. -/
def wrapRequest : RunRequest := { message := "x", scope := "s" }

/-- The run of `wrapLoop`: the tool turn, then the answer, and no input tokens. -/
def wrapRun : AgentRun :=
  { outcome := .done, response := "done"
    messages := [Message.user "x", wrapToolTurn.toMessage,
      Message.ofToolResult ⟨"c1", "saved", false⟩, Message.assistant "done"]
    iterations := 2, usage := ⟨0, 0⟩, degradedTools := [] }

/-- The world after `wrapRun`: both iterations reported, the tool awaited in between. -/
def wrapWorld : World :=
  (((({} : World).recordEvent (.loopPhase "s" (.running 0))).recordEvent
    (.loopPhase "s" (.awaitingTool 0 1))).recordEvent (.loopPhase "s" (.running 1))).recordEvent
    (.loopPhase "s" .done)

/-- Two answers of `2^64 - 1` and `1` input tokens: the run reports no input tokens, and no two
answers the model can give add up to that. -/
theorem two_answers_wrap_input_tokens :
    Exec {} (wrapLoop.run wrapRequest) wrapWorld (.pure (.ok wrapRun)) ∧
      inputTokensOf [wrapToolTurn, wrapFinalAnswer] = 2 ^ 64 ∧ wrapRun.usage.inputTokens = 0 ∧
      ∀ responses : List ModelResponse, responses.length = wrapRun.iterations →
        (∀ i (hi : i < responses.length), ∃ (messages : List Message) (v v' : World),
          Exec v (wrapStep.model (wrapStep.modelRequest messages)) v' (.pure (.ok responses[i]))) →
        wrapRun.usage.inputTokens ≠ inputTokensOf responses := by
  have hexec : Exec {} (wrapLoop.run wrapRequest) wrapWorld (.pure (.ok wrapRun)) := by
    refine .step .read ?_
    refine .step (.firstLeft .read) ?_
    refine .step (.firstLeft .read) ?_
    refine .step (.firstLeft .write) ?_
    refine .step (.firstLeft .read) ?_
    refine .step (.firstLeft .write) ?_
    refine .step (.firstLeft .read) ?_
    refine .step (.firstLeft .read) ?_
    refine .step (.firstLeft .write) ?_
    refine .step .firstLeftDone ?_
    refine .step .read ?_
    refine .step .write ?_
    exact .refl
  refine ⟨hexec, rfl, rfl, fun responses hlen hanswers => ?_⟩
  have hone : ∀ i (hi : i < responses.length),
      responses[i].usage.inputTokens = 2 ^ 64 - 1 ∨ responses[i].usage.inputTokens = 1 := by
    intro i hi
    obtain ⟨messages, v, v', hmodel⟩ := hanswers i hi
    have hanswer := Exec.eq_of_pure hmodel
    split at hanswer
    · rw [Except.ok.inj hanswer]
      exact .inl rfl
    · rw [Except.ok.inj hanswer]
      exact .inr rfl
  match responses, hlen, hone with
  | [r₀, r₁], _, hone =>
    have h₀ := hone 0 (by simp)
    have h₁ := hone 1 (by simp)
    simp only [List.getElem_cons_zero, List.getElem_cons_succ] at h₀ h₁
    simp only [inputTokensOf, List.map_cons, List.map_nil, List.sum_cons, List.sum_nil]
    show 0 ≠ _
    omega

end ResilientAgent
