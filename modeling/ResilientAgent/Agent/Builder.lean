import ResilientAgent.Agent.Loop

/-!
# Assembling an agent

An agent is a loop over one step, built from a configuration, a model and tools. Building
checks that there is a model and registers every tool, failing on the first refusal; it then
puts every tool and the model under the resilience stack, configures the step from the agent
settings and bounds the loop by the iteration limit and the request time bound.
-/

namespace ResilientAgent

/-- What an agent is built from. -/
structure AgentBuilder where
  config : RuntimeConfig
  tools : List ToolDef := []
  provider : Option ModelService := none
  resilience : Resilience

/-- Builds the agent, or names what is wrong. -/
def AgentBuilder.build (b : AgentBuilder) : Except AgentError AgentLoop := do
  let some provider := b.provider | throw (.config "no model provider configured")
  let registry ← b.tools.foldlM ToolRegistry.register {}
  let router := registry.intoRouter b.resilience
  let step : Step := Step.configured ⟨b.resilience.modelService provider, router, none, none, none,
    true, none⟩ b.config.agent
  return ⟨step.run, b.config.agent.maxIterations, b.config.timeouts.request⟩

end ResilientAgent
