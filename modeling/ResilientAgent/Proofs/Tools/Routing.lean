import Mathlib
import ResilientAgent.Tools.Registry

/-!
# Registering tools and routing calls to them

A registry admits a tool when three checks pass, in this order: its name is one to sixty-four
characters, each an ASCII letter or digit, `_` or `-` (`ValidToolName`); no tool already admitted
has that name; and its argument schema is a JSON object whose `"type"` member is the string
`"object"` (`Json.IsObjectSchema`). The name check counts bytes, not characters; the two agree
because every character it lets through is one byte long (`utf8ByteSize_eq_length`). A refusal
is a registration error and gives back no registry, so the caller keeps the one it had.

A registry built by registrations that all succeeded holds the tools in the order they were
registered, under distinct names (`ToolRegistry.tools_of_foldlM_register`). That is what the
router built from it needs. The router's tables are built one tool after another, a later tool
of a name taking the name over; under distinct names each table holds every tool's record under
its name and nothing under any other name (`Keyed.get?_foldl_put_of_mem`,
`Keyed.get?_foldl_put_of_forall_ne`). So the `i`-th tool has place `i + 1` among the services,
a name no tool has falls to place zero, where the answer to unknown names stands, and dispatch,
criticality and what the model is shown all follow (`registered_tools_route_by_name`).
-/

namespace ResilientAgent

/-! ## Names and schemas, as documented -/

/-- A character of a tool name: an ASCII letter or digit, `_` or `-`. -/
def IsToolNameChar (c : Char) : Prop :=
  ('A' ≤ c ∧ c ≤ 'Z') ∨ ('a' ≤ c ∧ c ≤ 'z') ∨ ('0' ≤ c ∧ c ≤ '9') ∨ c = '_' ∨ c = '-'

/-- A tool name: one to sixty-four characters, each of them a tool-name character. -/
def ValidToolName (name : String) : Prop :=
  1 ≤ name.length ∧ name.length ≤ 64 ∧ ∀ c ∈ name.toList, IsToolNameChar c

instance instDecidablePredIsToolNameChar : DecidablePred IsToolNameChar :=
  fun _ => inferInstanceAs (Decidable (_ ∨ _))

instance instDecidablePredValidToolName : DecidablePred ValidToolName :=
  fun _ => inferInstanceAs (Decidable (_ ∧ _))

/-- A schema describing JSON objects: its `"type"` member is the string `"object"`. -/
def Json.IsObjectSchema (schema : Json) : Prop := schema.get? "type" = some (.string "object")

theorem isNameChar_iff (c : Char) : isNameChar c = true ↔ IsToolNameChar c := by
  simp only [isNameChar, Char.isAlphanum, Char.isAlpha, Char.isUpper, Char.isLower, Char.isDigit,
    IsToolNameChar, Char.le_def, Bool.or_eq_true, Bool.and_eq_true, decide_eq_true_eq, beq_iff_eq,
    ge_iff_le, or_assoc]

theorem IsToolNameChar.utf8Size_eq_one {c : Char} (h : IsToolNameChar c) : c.utf8Size = 1 := by
  rw [Char.utf8Size_eq_one_iff, UInt32.le_iff_toNat_le]
  have hZ : 'Z'.val.toNat = 90 := rfl
  have hz : 'z'.val.toNat = 122 := rfl
  have h9 : '9'.val.toNat = 57 := rfl
  have h127 : (127 : UInt32).toNat = 127 := rfl
  simp only [IsToolNameChar, Char.le_def, UInt32.le_iff_toNat_le] at h
  rcases h with ⟨-, h⟩ | ⟨-, h⟩ | ⟨-, h⟩ | rfl | rfl
  · omega
  · omega
  · omega
  all_goals decide

theorem utf8ByteSize_ofList (l : List Char) :
    (String.ofList l).utf8ByteSize = (l.map Char.utf8Size).sum := by
  induction l with
  | nil => rfl
  | cons c l ih =>
    simp [String.ofList_cons, String.utf8ByteSize_append, String.utf8ByteSize_singleton, ih]

/-- A text of one-byte characters is as many bytes long as it has characters. -/
theorem utf8ByteSize_eq_length {s : String} (h : ∀ c ∈ s.toList, c.utf8Size = 1) :
    s.utf8ByteSize = s.length := by
  rw [← String.ofList_toList (s := s), utf8ByteSize_ofList, String.length_ofList,
    List.map_congr_left h]
  simp

theorem isToolName_iff (name : String) : isToolName name = true ↔ ValidToolName name := by
  have hchars : name.toList.all isNameChar = true ↔ ∀ c ∈ name.toList, IsToolNameChar c := by
    simp only [List.all_eq_true, isNameChar_iff]
  by_cases hall : ∀ c ∈ name.toList, IsToolNameChar c
  · -- the characters are ASCII, so the byte count the check reads is the character count
    have hsize := utf8ByteSize_eq_length fun c hc => (hall c hc).utf8Size_eq_one
    simp only [isToolName, ValidToolName, String.isEmpty_eq_utf8ByteSize_beq_zero, hsize,
      hchars.2 hall, Bool.and_true, Bool.and_eq_true, Bool.not_eq_true', beq_eq_false_iff_ne,
      decide_eq_true_eq, Nat.one_le_iff_ne_zero]
    exact ⟨fun ⟨hne, hle⟩ => ⟨hne, hle, hall⟩, fun ⟨hne, hle, _⟩ => ⟨hne, hle⟩⟩
  · simp [isToolName, ValidToolName, hall, mt hchars.1 hall]

example : ValidToolName "web_search-2" ∧ ¬ValidToolName "has space" ∧ ¬ValidToolName "" := by
  simp only [← isToolName_iff]
  decide

theorem str?_eq_object_iff {j : Option Json} : j.bind Json.str? = some "object" ↔
    j = some (.string "object") := by
  rcases j with _ | ⟨_ | _ | _ | s | _ | _⟩ <;> simp [Json.str?]

/-! ## Registration -/

namespace ToolRegistry

theorem register_eq_ok_iff {r r' : ToolRegistry} {t : ToolDef} :
    r.register t = .ok r' ↔
      (ValidToolName t.name ∧ (∀ u ∈ r.tools, u.name ≠ t.name) ∧ t.parameters.IsObjectSchema) ∧
        r' = ⟨r.tools ++ [t]⟩ := by
  unfold register
  by_cases hvalid : ValidToolName t.name
  swap
  · -- the name is checked first
    have hn : isToolName t.name = false := Bool.eq_false_iff.2 (mt (isToolName_iff _).1 hvalid)
    simp [hn, hvalid]
  have hn : isToolName t.name = true := (isToolName_iff _).2 hvalid
  by_cases hfree : ∀ u ∈ r.tools, u.name ≠ t.name
  swap
  · have hany : r.tools.any (·.name == t.name) = true := by simpa using hfree
    simp [hn, hany, hfree]
  have hany : r.tools.any (·.name == t.name) = false := by simpa using hfree
  by_cases hobj : t.parameters.IsObjectSchema
  · have htype : (t.parameters.get? "type").bind Json.str? = some "object" :=
      str?_eq_object_iff.2 hobj
    simp only [hn, hany, htype, hvalid, hobj, true_and, and_true]
    simp only [Bool.not_true, Bool.false_eq_true, ↓reduceIte, bne_self_eq_false, Except.ok.injEq]
    exact ⟨fun h => ⟨hfree, h.symm⟩, fun h => h.2.symm⟩
  · have htype : (t.parameters.get? "type").bind Json.str? ≠ some "object" :=
      mt str?_eq_object_iff.1 hobj
    simp [hn, hany, htype, hobj]

theorem register_eq_error {r : ToolRegistry} {t : ToolDef} {e : AgentError}
    (h : r.register t = .error e) : ∃ message, e = .registration message := by
  unfold register at h
  split_ifs at h <;> cases h <;> exact ⟨_, rfl⟩

/-- Registrations that all succeed add their tools in order, and the names stay distinct. -/
theorem tools_of_foldlM_register {ts : List ToolDef} {r r' : ToolRegistry}
    (hnames : (r.tools.map ToolDef.name).Nodup) (h : ts.foldlM register r = .ok r') :
    r'.tools = r.tools ++ ts ∧ (r'.tools.map ToolDef.name).Nodup := by
  induction ts generalizing r with
  | nil =>
    cases h
    exact ⟨by simp, hnames⟩
  | cons t ts ih =>
    rw [List.foldlM_cons] at h
    cases hreg : r.register t with
    | error e => simp [hreg] at h; cases h
    | ok r₁ =>
      rw [hreg] at h
      obtain ⟨⟨-, hfree, -⟩, rfl⟩ := register_eq_ok_iff.1 hreg
      have hnames₁ : ((r.tools ++ [t]).map ToolDef.name).Nodup := by
        simpa [List.nodup_append, List.nodup_cons] using
          ⟨hnames, fun u hu hname => hfree u hu hname⟩
      obtain ⟨htools, hnodup⟩ := ih hnames₁ h
      exact ⟨by simp [htools], hnodup⟩

end ToolRegistry

/-! ## Tables built one record at a time -/

namespace Keyed

variable {α : Type} {β : Type*} {key : β → String} {value : β → α} {t : Keyed α}

theorem get?_foldl_put_of_forall_ne {l : List β} {name : String} (hne : ∀ x ∈ l, key x ≠ name) :
    (l.foldl (fun table x => table.put (key x) (value x)) t).get? name = t.get? name := by
  induction l generalizing t with
  | nil => rfl
  | cons x l ih =>
    rw [List.foldl_cons, ih fun y hy => hne y (List.mem_cons_of_mem _ hy),
      get?_put_of_ne (Ne.symm (hne x List.mem_cons_self))]

/-- Under distinct keys, each record put is found under its key. -/
theorem get?_foldl_put_of_mem {l : List β} (hkeys : (l.map key).Nodup) {x : β} (hx : x ∈ l) :
    (l.foldl (fun table x => table.put (key x) (value x)) t).get? (key x) = some (value x) := by
  induction l generalizing t with
  | nil => cases hx
  | cons y l ih =>
    rw [List.map_cons, List.nodup_cons] at hkeys
    rw [List.foldl_cons]
    rcases List.mem_cons.1 hx with rfl | hx
    · have hlater : ∀ z ∈ l, key z ≠ key x := fun z hz hkey =>
        hkeys.1 (hkey ▸ List.mem_map_of_mem hz)
      rw [get?_foldl_put_of_forall_ne hlater, get?_put_self]
    · exact ih hkeys.2 hx

end Keyed

/-! ## The router over some tools -/

variable {tools : List ToolDef}

theorem indexTable_get?_getElem (hnames : (tools.map ToolDef.name).Nodup) {i : Nat}
    (hi : i < tools.length) : (indexTable tools).get? tools[i].name = some (i + 1) := by
  have hmem : (tools[i], i) ∈ tools.zipIdx := List.mem_zipIdx_iff_getElem?.2 (by simp)
  have hkeys : (tools.zipIdx.map fun x => x.1.name).Nodup := by
    have hnamesOf : (tools.zipIdx.map fun x => x.1.name) = tools.map ToolDef.name := by
      rw [show (fun x : ToolDef × Nat => x.1.name) = ToolDef.name ∘ Prod.fst from rfl,
        ← List.map_map, List.zipIdx_map_fst]
    rw [hnamesOf]
    exact hnames
  exact Keyed.get?_foldl_put_of_mem hkeys hmem

theorem indexTable_get?_of_forall_ne {name : String} (hne : ∀ t ∈ tools, t.name ≠ name) :
    (indexTable tools).get? name = none :=
  Keyed.get?_foldl_put_of_forall_ne fun x hx => hne x.1 (List.fst_mem_of_mem_zipIdx hx)

theorem criticalityTable_get?_of_mem (hnames : (tools.map ToolDef.name).Nodup) {t : ToolDef}
    (ht : t ∈ tools) : (criticalityTable tools).get? t.name = some t.criticality :=
  Keyed.get?_foldl_put_of_mem hnames ht

theorem criticalityTable_get?_of_forall_ne {name : String} (hne : ∀ t ∈ tools, t.name ≠ name) :
    (criticalityTable tools).get? name = none :=
  Keyed.get?_foldl_put_of_forall_ne hne

namespace ToolRouter

theorem index_new_getElem (hnames : (tools.map ToolDef.name).Nodup) {i : Nat}
    (hi : i < tools.length) : (new tools).index tools[i].name = i + 1 := by
  simp [index, new, indexTable_get?_getElem hnames hi]

theorem index_new_of_forall_ne {name : String} (hne : ∀ t ∈ tools, t.name ≠ name) :
    (new tools).index name = 0 := by
  simp [index, new, indexTable_get?_of_forall_ne hne]

theorem index_new_eq_zero_iff (hnames : (tools.map ToolDef.name).Nodup) (name : String) :
    (new tools).index name = 0 ↔ ∀ t ∈ tools, t.name ≠ name := by
  refine ⟨fun hzero t ht hname => ?_, index_new_of_forall_ne⟩
  obtain ⟨i, hi, rfl⟩ := List.getElem_of_mem ht
  rw [← hname, index_new_getElem hnames hi] at hzero
  cases hzero

theorem contains_new_iff (hnames : (tools.map ToolDef.name).Nodup) (name : String) :
    (new tools).contains name = true ↔ ∃ t ∈ tools, t.name = name := by
  constructor
  · intro hsome
    by_contra hnone
    have hne : ∀ t ∈ tools, t.name ≠ name := fun t ht hname => hnone ⟨t, ht, hname⟩
    simp [contains, new, indexTable_get?_of_forall_ne hne] at hsome
  · rintro ⟨t, ht, rfl⟩
    obtain ⟨i, hi, rfl⟩ := List.getElem_of_mem ht
    simp [contains, new, indexTable_get?_getElem hnames hi]

theorem call_eq_getElem (r : ToolRouter) (inv : ToolInvocation) :
    r.call inv = r.services.get ⟨r.index inv.name, r.index_lt inv.name⟩ inv := rfl

theorem call_new_of_mem (hnames : (tools.map ToolDef.name).Nodup) {t : ToolDef} (ht : t ∈ tools)
    {inv : ToolInvocation} (hname : inv.name = t.name) : (new tools).call inv = t.service inv := by
  obtain ⟨i, hi, rfl⟩ := List.getElem_of_mem ht
  simp only [call_eq_getElem, hname, index_new_getElem hnames hi]
  simp [new]

theorem call_of_index_eq_zero (r : ToolRouter) {inv : ToolInvocation}
    (hzero : r.index inv.name = 0) :
    r.call inv = pure (.error (.tool (.validation ("unknown tool: " ++ inv.name)))) := by
  have hfirst : r.services.get ⟨0, r.length_pos⟩ = unknownTool := by
    have hhead := r.head_unknown
    rw [List.head?_eq_getElem?, List.getElem?_eq_getElem r.length_pos] at hhead
    simpa using hhead
  simp only [call_eq_getElem, hzero, hfirst]
  rfl

theorem index_eq_zero_of_contains_eq_false (r : ToolRouter) {name : String}
    (h : r.contains name = false) : r.index name = 0 := by
  simp only [contains, Option.isSome_eq_false_iff, Option.isNone_iff_eq_none] at h
  simp [index, h]

theorem criticality_new_of_mem (hnames : (tools.map ToolDef.name).Nodup) {t : ToolDef}
    (ht : t ∈ tools) : (new tools).criticality t.name = t.criticality := by
  simp [criticality, new, criticalityTable_get?_of_mem hnames ht]

theorem criticality_new_of_forall_ne {name : String} (hne : ∀ t ∈ tools, t.name ≠ name) :
    (new tools).criticality name = .critical := by
  simp [criticality, new, criticalityTable_get?_of_forall_ne hne]
  rfl

end ToolRouter

/-! ## The contract -/

/-- The tools of a registry, each under its resilience stack. -/
def ToolRegistry.guarded (reg : ToolRegistry) (resilience : Resilience) : List ToolDef :=
  reg.tools.map fun t => { t with service := resilience.toolService t }

theorem ToolRegistry.guarded_names (reg : ToolRegistry) (resilience : Resilience) :
    (reg.guarded resilience).map ToolDef.name = reg.tools.map ToolDef.name := by
  simp [guarded, Function.comp_def]

theorem ToolRegistry.call_intoRouter_of_mem {ts : List ToolDef} {reg : ToolRegistry}
    (hreg : ts.foldlM ToolRegistry.register {} = .ok reg) (resilience : Resilience) {t : ToolDef}
    (ht : t ∈ ts) {inv : ToolInvocation} (hname : inv.name = t.name) :
    (reg.intoRouter resilience).call inv = resilience.toolService t inv := by
  obtain ⟨htools, hnames⟩ := ToolRegistry.tools_of_foldlM_register (by simp) hreg
  have hguarded : ((reg.guarded resilience).map ToolDef.name).Nodup := by
    rw [ToolRegistry.guarded_names]
    exact hnames
  have hmem : { t with service := resilience.toolService t } ∈ reg.guarded resilience :=
    List.mem_map_of_mem (by simpa [htools] using ht)
  exact ToolRouter.call_new_of_mem hguarded hmem hname

/-- Registration admits a tool exactly when its name is valid and free and its schema describes
objects, and a refusal is a registration error. A registry built by registrations that all
succeeded holds their tools in order. The router built from it places the `i`-th of them, under
its resilience stack, at place `i + 1` of its services, after the answer to unknown names; a
name has place zero exactly when no tool has it. So a call naming a registered tool goes to that
tool under its resilience stack, and one naming none is refused as invalid, naming the tool. The
router knows exactly the registered names, gives a tool's criticality, critical for a name it
does not know, and shows the model the tools in the order they were registered. -/
theorem registered_tools_route_by_name {ts : List ToolDef} {reg : ToolRegistry}
    (hreg : ts.foldlM ToolRegistry.register {} = .ok reg) (resilience : Resilience) :
    (∀ (r r' : ToolRegistry) (t : ToolDef), r.register t = .ok r' ↔
        (ValidToolName t.name ∧ (∀ u ∈ r.tools, u.name ≠ t.name) ∧ t.parameters.IsObjectSchema) ∧
          r' = ⟨r.tools ++ [t]⟩) ∧
      (∀ (r : ToolRegistry) (t : ToolDef) (e : AgentError), r.register t = .error e →
        ∃ message, e = .registration message) ∧
      reg.tools = ts ∧
      (reg.intoRouter resilience).services = unknownTool :: ts.map resilience.toolService ∧
      (∀ i (hi : i < ts.length), (reg.intoRouter resilience).index ts[i].name = i + 1) ∧
      (∀ name, (reg.intoRouter resilience).index name = 0 ↔ ∀ t ∈ ts, t.name ≠ name) ∧
      (∀ t ∈ ts, ∀ inv : ToolInvocation, inv.name = t.name →
        (reg.intoRouter resilience).call inv = resilience.toolService t inv) ∧
      (∀ inv : ToolInvocation, (∀ t ∈ ts, t.name ≠ inv.name) →
        (reg.intoRouter resilience).call inv =
          pure (.error (.tool (.validation ("unknown tool: " ++ inv.name))))) ∧
      (∀ name, (reg.intoRouter resilience).contains name = true ↔ ∃ t ∈ ts, t.name = name) ∧
      (∀ t ∈ ts, (reg.intoRouter resilience).criticality t.name = t.criticality) ∧
      (∀ name, (∀ t ∈ ts, t.name ≠ name) →
        (reg.intoRouter resilience).criticality name = .critical) ∧
      (reg.intoRouter resilience).specs = ts.map ToolDef.spec := by
  obtain ⟨htools, hnames⟩ := ToolRegistry.tools_of_foldlM_register (by simp) hreg
  replace htools : reg.tools = ts := by simpa using htools
  have hguarded : (reg.guarded resilience).map ToolDef.name = ts.map ToolDef.name := by
    rw [ToolRegistry.guarded_names, htools]
  replace hnames : ((reg.guarded resilience).map ToolDef.name).Nodup := by
    rw [ToolRegistry.guarded_names]
    exact hnames
  have hrouter : reg.intoRouter resilience = .new (reg.guarded resilience) := rfl
  have hmem : ∀ {t}, t ∈ ts → { t with service := resilience.toolService t } ∈ reg.guarded resilience :=
    fun ht => List.mem_map_of_mem (htools ▸ ht)
  have hnone : ∀ {name}, (∀ t ∈ ts, t.name ≠ name) → ∀ t ∈ reg.guarded resilience, t.name ≠ name := by
    intro name hne t ht
    obtain ⟨u, hu, rfl⟩ := List.mem_map.1 ht
    exact hne u (htools ▸ hu)
  refine ⟨fun _ _ _ => ToolRegistry.register_eq_ok_iff, fun _ _ _ => ToolRegistry.register_eq_error,
    htools, ?services, ?indices, ?zero, ?registered, ?unknown, ?contains, ?critical, ?critical_unknown,
    ?specs⟩
  case services => simp [hrouter, ToolRouter.new, ToolRegistry.guarded, htools]
  case indices =>
    intro i hi
    have hi' : i < (reg.guarded resilience).length := by simpa [ToolRegistry.guarded, htools] using hi
    have hname : (reg.guarded resilience)[i].name = ts[i].name := by
      simp [ToolRegistry.guarded, htools]
    rw [hrouter, ← hname, ToolRouter.index_new_getElem hnames hi']
  case zero =>
    intro name
    rw [hrouter, ToolRouter.index_new_eq_zero_iff hnames]
    constructor
    · intro hne t ht hname
      exact hne _ (hmem ht) hname
    · exact hnone
  case registered =>
    intro t ht inv hname
    exact ToolRegistry.call_intoRouter_of_mem hreg resilience ht hname
  case unknown =>
    intro inv hne
    exact ToolRouter.call_of_index_eq_zero _ (hrouter ▸ ToolRouter.index_new_of_forall_ne (hnone hne))
  case contains =>
    intro name
    rw [hrouter, ToolRouter.contains_new_iff hnames]
    constructor
    · rintro ⟨t, ht, rfl⟩
      obtain ⟨u, hu, rfl⟩ := List.mem_map.1 ht
      exact ⟨u, htools ▸ hu, rfl⟩
    · rintro ⟨t, ht, rfl⟩
      exact ⟨_, hmem ht, rfl⟩
  case critical =>
    intro t ht
    rw [hrouter, ToolRouter.criticality_new_of_mem hnames (hmem ht)]
  case critical_unknown =>
    intro name hne
    rw [hrouter, ToolRouter.criticality_new_of_forall_ne (hnone hne)]
  case specs => simp [hrouter, ToolRouter.new, ToolRegistry.guarded, htools, ToolDef.spec]

/-- A tool answering with its arguments, under a name and a schema of objects. -/
def argumentEchoTool (name : String) : ToolDef :=
  ToolDef.ofHandler name "Echo" (.object [("type", .string "object")]) fun args => pure (.ok args)

/-- Two tools registered in turn, the second optional. -/
def echoTools : List ToolDef :=
  [argumentEchoTool "add", { argumentEchoTool "web_search-2" with criticality := .optional }]

theorem echo_tools_route_by_name :
    echoTools.foldlM ToolRegistry.register {} = .ok ⟨echoTools⟩ ∧
      ((∀ (r r' : ToolRegistry) (t : ToolDef), r.register t = .ok r' ↔
        (ValidToolName t.name ∧ (∀ u ∈ r.tools, u.name ≠ t.name) ∧ t.parameters.IsObjectSchema) ∧
          r' = ⟨r.tools ++ [t]⟩) ∧
      (∀ (r : ToolRegistry) (t : ToolDef) (e : AgentError), r.register t = .error e →
        ∃ message, e = .registration message) ∧
      (⟨echoTools⟩ : ToolRegistry).tools = echoTools ∧
      ((⟨echoTools⟩ : ToolRegistry).intoRouter default).services =
        unknownTool :: echoTools.map (default : Resilience).toolService ∧
      (∀ i (hi : i < echoTools.length),
        ((⟨echoTools⟩ : ToolRegistry).intoRouter default).index echoTools[i].name = i + 1) ∧
      (∀ name, ((⟨echoTools⟩ : ToolRegistry).intoRouter default).index name = 0 ↔
        ∀ t ∈ echoTools, t.name ≠ name) ∧
      (∀ t ∈ echoTools, ∀ inv : ToolInvocation, inv.name = t.name →
        ((⟨echoTools⟩ : ToolRegistry).intoRouter default).call inv =
          (default : Resilience).toolService t inv) ∧
      (∀ inv : ToolInvocation, (∀ t ∈ echoTools, t.name ≠ inv.name) →
        ((⟨echoTools⟩ : ToolRegistry).intoRouter default).call inv =
          pure (.error (.tool (.validation ("unknown tool: " ++ inv.name))))) ∧
      (∀ name, ((⟨echoTools⟩ : ToolRegistry).intoRouter default).contains name = true ↔
        ∃ t ∈ echoTools, t.name = name) ∧
      (∀ t ∈ echoTools,
        ((⟨echoTools⟩ : ToolRegistry).intoRouter default).criticality t.name = t.criticality) ∧
      (∀ name, (∀ t ∈ echoTools, t.name ≠ name) →
        ((⟨echoTools⟩ : ToolRegistry).intoRouter default).criticality name = .critical) ∧
      ((⟨echoTools⟩ : ToolRegistry).intoRouter default).specs = echoTools.map ToolDef.spec) := by
  have hreg : echoTools.foldlM ToolRegistry.register {} = .ok ⟨echoTools⟩ := rfl
  exact ⟨hreg, registered_tools_route_by_name hreg default⟩

end ResilientAgent
