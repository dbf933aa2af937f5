import ResilientAgent.Resilience.Policy

/-!
# Re-typing a boxed failure

Services hand failures back boxed, as a `Fault`; the agent loop turns one back into a runtime
error with `AgentError.ofFault`, naming the dependency it came from. A runtime error comes back
as it was, and any other fault becomes a transient or permanent failure of the dependency, or a
cancellation, by its kind. Re-typing therefore never changes a failure's kind (`kind_ofFault`),
however deeply tool failures are nested in one another, since a runtime error is not looked
into at all. Whatever the kind decides is decided alike before and after: whether the retry
policy tries again, what the breaker counts, and whether the failure is a cancellation
(`retyping_keeps_kind`).
-/

namespace ResilientAgent

namespace AgentError

@[simp] theorem ofFault_agent (e : AgentError) (d : String) : ofFault (.agent e) d = e := rfl

private theorem kind_ofKind (f : Fault) (d : String) :
    (match f.kind with
      | .permanent => AgentError.permanent d f.display
      | .cancelled => AgentError.cancelled
      | .transient => AgentError.transient d f.display).kind = f.kind := by
  cases f.kind <;> rfl

/-- Re-typing keeps the kind: a runtime error is returned as it is, and any other fault becomes
the runtime error of its own kind. -/
@[simp] theorem kind_ofFault (f : Fault) (d : String) : (ofFault f d).kind = f.kind := by
  cases f with
  | agent e => rfl
  | tool e => exact kind_ofKind (.tool e) d
  | elapsed => exact kind_ofKind .elapsed d
  | json e => exact kind_ofKind (.json e) d
  | plain m => exact kind_ofKind (.plain m) d

end AgentError

@[simp] theorem Fault.kind_agent (e : AgentError) : (Fault.agent e).kind = e.kind := rfl

/-- Re-typing a boxed failure for any dependency keeps its kind, and returns a runtime error
unchanged. Boxed again, the re-typed failure is retried by a configured retry policy exactly
when the original is, and the breaker counts it as it counts the original. -/
theorem retyping_keeps_kind (config : RetryConfig) (f : Fault) (d : String) :
    (AgentError.ofFault f d).kind = f.kind ∧
      (∀ e : AgentError, AgentError.ofFault (.agent e) d = e) ∧
      (RetryPolicy.ofConfig config).retryable (.agent (AgentError.ofFault f d)) =
        (RetryPolicy.ofConfig config).retryable f ∧
      CallResult.ofFault (.agent (AgentError.ofFault f d)) = CallResult.ofFault f := by
  have hkind := AgentError.kind_ofFault f d
  refine ⟨hkind, fun e => AgentError.ofFault_agent e d, ?_, ?_⟩
  · -- a configured policy retries by kind alone
    simp only [RetryPolicy.ofConfig, Fault.kind_agent, hkind]
  · simp only [CallResult.ofFault, Fault.kind_agent, hkind]

end ResilientAgent
