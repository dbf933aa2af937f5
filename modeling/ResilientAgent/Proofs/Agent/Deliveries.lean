import ResilientAgent.Proofs.Idempotency.ToolKeys
import ResilientAgent.Proofs.Tools.Routing
import ResilientAgent.Agent.Builder
import ResilientAgent.Agent.Worker

/-!
# The deliveries of one job

A job is delivered again when its lease lapses and the reaper sends it back to the queue, and any
worker may take it then. Every delivery runs the agent with the job's id as the request's scope,
and the loop hands that scope to each of its steps: a delivery runs the same as one whose agent
runs every step in the job's scope (`Worker.process_pinned`), so what the agent would do in any
other scope never matters to it.

A built agent loops over one step, which sends a call naming a registered tool to that tool under
the resilience stack (`AgentBuilder.step_of_build`). A side-effecting tool's stack is the breaker
around the retries around the guard's `ensure`, every attempt under the key of the call's scope,
the tool's name and the canonical arguments, the content handed back under the call's own id
(`Resilience.toolService_sideEffecting`). The calls of such a tool that the deliveries of one job
make with arguments equal up to the order of object members are therefore callers of one key of
one guard, whatever worker, lease, call id or attempt they come with, and what the guard's pool
keeps for the callers of a key holds of them.
-/

namespace ResilientAgent

namespace AgentLoop

/-- The loop whose steps all run in scope `s`, whatever scope they are asked for. -/
def pinned (l : AgentLoop) (s : String) : AgentLoop :=
  { l with step := fun sr => l.step { sr with scope := s } }

theorem drive_pinned (l : AgentLoop) (req : RunRequest) (left : Nat) :
    ∀ iteration progress,
      (l.pinned req.scope).drive req iteration progress left = l.drive req iteration progress left := by
  induction left with
  | zero => intro _ _; rfl
  | succ left ih =>
    intro iteration progress
    simp only [drive, ih]
    rfl

theorem run_pinned (l : AgentLoop) {req : RunRequest} {s : String} (hscope : req.scope = s) :
    (l.pinned s).run req = l.run req := by
  subst hscope
  simp only [run, drive_pinned]
  rfl

end AgentLoop

/-- A delivery of a job runs the agent's steps in the job's scope only. -/
theorem Worker.process_pinned (wk : Worker) (job : Job) (lease : Lease) :
    { wk with agent := wk.agent.pinned job.jobId }.process job lease = wk.process job lease := by
  simp only [Worker.process, Worker.runWithHeartbeat, AgentLoop.run_pinned]

/-- A built agent loops over one step, which sends a call naming a registered tool to that tool
under the resilience stack. -/
theorem AgentBuilder.step_of_build {b : AgentBuilder} {l : AgentLoop} (hb : b.build = .ok l) :
    ∃ s : Step, l.step = s.run ∧
      ∀ t ∈ b.tools, ∀ inv : ToolInvocation, inv.name = t.name →
        s.tools.call inv = b.resilience.toolService t inv := by
  unfold build at hb
  cases hprovider : b.provider with
  | none => simp [hprovider] at hb
  | some provider =>
    cases hreg : b.tools.foldlM ToolRegistry.register {} with
    | error e => simp [hprovider, hreg] at hb
    | ok reg =>
      simp only [hprovider, hreg, bind, Except.bind, pure, Except.pure, Except.ok.injEq] at hb
      subst hb
      exact ⟨_, rfl, fun t ht inv hname =>
        ToolRegistry.call_intoRouter_of_mem hreg b.resilience ht hname⟩

namespace Resilience

/-- A call of a side-effecting tool goes through the breaker around the retries, and every
attempt is the guard's `ensure` under the call's key, its content named with the call's id. -/
theorem toolService_sideEffecting (r : Resilience) {t : ToolDef} (hside : t.sideEffecting = true)
    (inv : ToolInvocation) :
    r.toolService t inv = (r.breakers.get (r.toolPolicy t).name).call
      ((r.toolPolicy t).retry.execute (r.toolPolicy t).name fun _ =>
        (r.idempotency.ensure (toolKey inv) textKeeping
          (toolOp (r.guardAttempt (r.toolPolicy t) t.service) inv)).bind fun content =>
            .pure (content.map fun c => ⟨inv.id, c⟩)) := by
  simp only [toolService, hside, if_true, guardSequence, idempotent_eq_ensure]

end Resilience

/-- A side-effecting tool that saves a note. -/
def savingNoteTool : ToolDef :=
  { ToolDef.ofHandler "note" "Save a note" (.object [("type", .string "object")]) (fun _ =>
      Pure.pure (.ok (.string "saved"))) with sideEffecting := true }

/-- An agent with the note tool and a model that refuses every request. -/
def noteAgent : AgentBuilder where
  config := default
  tools := [savingNoteTool]
  provider := some fun _ => Pure.pure (.error (.plain "no model"))
  resilience := default

end ResilientAgent
