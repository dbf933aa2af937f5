import ResilientAgent.Service.Stack

/-!
# Registering and routing tools

A registry checks tools as they are added: a name is 1 to 64 bytes of ASCII letters, digits,
`_` and `-`, no two tools share a name, and a tool's arguments are described by a JSON object
schema. A router keeps a table from names to places among its services, the tools' in order
from place one and the answer to unknown names in place zero, and tables of the tools'
criticalities and descriptions. It dispatches an invocation to the service its name's place
holds, so a name it does not know is refused as invalid and the model learns of its mistake.
When two tools share a name, the one added last takes the name over. The router built from a
registry puts every tool under its resilience stack.
-/

namespace ResilientAgent

def isNameChar (c : Char) : Bool := c.isAlphanum || c == '_' || c == '-'

def isToolName (name : String) : Bool :=
  !name.isEmpty && name.utf8ByteSize ≤ 64 && name.toList.all isNameChar

structure ToolRegistry where
  tools : List ToolDef := []

namespace ToolRegistry

/-- Adds a tool, unless its name is invalid or taken or its schema is not an object schema. -/
def register (r : ToolRegistry) (t : ToolDef) : Except AgentError ToolRegistry :=
  if !isToolName t.name then .error (.registration ("invalid tool name '" ++ t.name ++ "'"))
  else if r.tools.any (·.name == t.name) then .error (.registration ("duplicate tool '" ++ t.name ++ "'"))
  else if ((t.parameters.get? "type").bind Json.str?) != some "object" then
    .error (.registration ("tool '" ++ t.name ++ "' parameters must be a JSON object schema"))
  else .ok { tools := r.tools ++ [t] }

def specs (r : ToolRegistry) : List ToolSpec := r.tools.map ToolDef.spec

end ToolRegistry

theorem Keyed.mem_foldl_put.{u} {α : Type} {β : Type u} {key : β → String} {value : β → α} {t : Keyed α}
    {l : List β} {e : String × α}
    (h : e ∈ l.foldl (fun table x => table.put (key x) (value x)) t) :
    e ∈ t ∨ ∃ x ∈ l, e = (key x, value x) := by
  induction l generalizing t with
  | nil => exact .inl h
  | cons x l ih =>
    rcases ih h with h | ⟨y, hy, rfl⟩
    · rcases Keyed.mem_put h with h | rfl
      · exact .inl h
      · exact .inr ⟨x, List.mem_cons_self, rfl⟩
    · exact .inr ⟨y, List.mem_cons_of_mem _ hy, rfl⟩

/-- The answer to a name no tool has: a refusal as invalid arguments, naming the tool. -/
def unknownTool : ToolService := fun inv =>
  pure (.error (.tool (.validation ("unknown tool: " ++ inv.name))))

/-- Each tool's place among a router's services, counted from one, since place zero answers
unknown names; a later tool of the same name takes the name over. -/
def indexTable (tools : List ToolDef) : Keyed Nat :=
  tools.zipIdx.foldl (fun table x => table.put x.1.name (x.2 + 1)) []

/-- Each tool's criticality by name; a later tool of the same name takes the name over. -/
def criticalityTable (tools : List ToolDef) : Keyed Criticality :=
  tools.foldl (fun table t => table.put t.name t.criticality) []

theorem indexTable_lt {tools : List ToolDef} {name : String} {i : Nat}
    (h : (indexTable tools).get? name = some i) : i < tools.length + 1 := by
  have hmem : (name, i) ∈ indexTable tools := Keyed.mem_of_get? h
  unfold indexTable at hmem
  rcases Keyed.mem_foldl_put hmem with h | ⟨⟨t, j⟩, hj, heq⟩
  · cases h
  · cases heq
    have := (List.mem_zipIdx hj).2.1
    omega

/-- Dispatch of invocations to tools by name, through a table from names to places among the
services; the service in place zero answers names the router does not know. -/
structure ToolRouter where
  nameToIndex : Keyed Nat
  services : List ToolService
  criticalities : Keyed Criticality
  /-- What the model is shown of every tool. -/
  specs : List ToolSpec
  indices_lt : ∀ name i, nameToIndex.get? name = some i → i < services.length
  head_unknown : services.head? = some unknownTool

namespace ToolRouter

/-- The router over some tools, in order. -/
def new (tools : List ToolDef) : ToolRouter where
  nameToIndex := indexTable tools
  services := unknownTool :: tools.map (·.service)
  criticalities := criticalityTable tools
  specs := tools.map ToolDef.spec
  indices_lt _ _ h := by simpa using indexTable_lt h
  head_unknown := rfl

def index (r : ToolRouter) (name : String) : Nat := (r.nameToIndex.get? name).getD 0

theorem length_pos (r : ToolRouter) : 0 < r.services.length :=
  List.length_pos_of_mem (List.mem_of_mem_head? r.head_unknown)

theorem index_lt (r : ToolRouter) (name : String) : r.index name < r.services.length := by
  unfold index
  cases h : r.nameToIndex.get? name with
  | none => exact r.length_pos
  | some i => exact r.indices_lt name i h

/-- How failures of the named tool are treated; critical for a name the router does not know. -/
def criticality (r : ToolRouter) (name : String) : Criticality :=
  (r.criticalities.get? name).getD default

def contains (r : ToolRouter) (name : String) : Bool := (r.nameToIndex.get? name).isSome

def call (r : ToolRouter) (inv : ToolInvocation) : Action (Except Fault ToolOutput) :=
  have := r.index_lt inv.name
  r.services[r.index inv.name] inv

end ToolRouter

def ToolRegistry.intoRouter (r : ToolRegistry) (resilience : Resilience) : ToolRouter :=
  .new (r.tools.map fun t => { t with service := resilience.toolService t })

end ResilientAgent
