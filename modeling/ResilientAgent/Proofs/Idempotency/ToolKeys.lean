import Mathlib.Data.List.Sort
import Mathlib.Data.String.Basic
import ResilientAgent.Proofs.Idempotency.SingleFlight

/-!
# The keys of tool calls

A side-effecting tool call is deduplicated under a key made of its request scope, the tool's
name and its arguments in canonical form (`IdempotencyKey.forToolCall`): the members of every
object sorted by name. Arguments that differ only in the order of object members
(`Json.Reordered`) have one canonical form (`canonicalJson_eq_of_reordered`), so calls of one
tool in one scope with such arguments are callers of one key of the guard
(`forToolCall_eq_of_reordered`), and everything `single_flight` says about the callers of a key
holds of them.
-/

namespace ResilientAgent

/-- Two JSON values that differ at most in the order of the members of their objects, the
members of each object under distinct names. -/
inductive Json.Reordered : Json → Json → Prop
  | refl (j : Json) : Reordered j j
  | array {xs ys : List Json} (hlen : xs.length = ys.length)
      (hitems : ∀ i (hx : i < xs.length) (hy : i < ys.length), Reordered xs[i] ys[i]) :
      Reordered (.array xs) (.array ys)
  /-- Each member is matched in place with a member of the same name in `fs'`, whose order is
  then changed. -/
  | object {fs gs : List (String × Json)} (fs' : List (String × Json))
      (hdistinct : (fs.map (·.1)).Nodup) (hlen : fs.length = fs'.length)
      (hnames : ∀ i (hx : i < fs.length) (hy : i < fs'.length), fs[i].1 = fs'[i].1)
      (hvalues : ∀ i (hx : i < fs.length) (hy : i < fs'.length), Reordered fs[i].2 fs'[i].2)
      (hperm : fs'.Perm gs) : Reordered (.object fs) (.object gs)

namespace IdempotencyKey

/-- The order the members of an object are written in: by name. -/
def memberLE (x y : String × String) : Bool := !decide (y.1 < x.1)

theorem memberLE_trans (x y z : String × String) (hxy : memberLE x y = true)
    (hyz : memberLE y z = true) : memberLE x z = true := by
  simp only [memberLE, Bool.not_eq_true', decide_eq_false_iff_not, not_lt] at *
  exact le_trans hxy hyz

theorem memberLE_total (x y : String × String) : (memberLE x y || memberLE y x) = true := by
  simp only [memberLE, Bool.or_eq_true, Bool.not_eq_true', decide_eq_false_iff_not, not_lt]
  exact le_total _ _

theorem mergeSort_eq_of_perm {ms ms' : List (String × String)} (hdistinct : (ms.map (·.1)).Nodup)
    (hperm : ms.Perm ms') : ms.mergeSort memberLE = ms'.mergeSort memberLE := by
  have hsorted : ∀ l : List (String × String),
      (l.mergeSort memberLE).Pairwise fun x y => memberLE x y = true :=
    List.pairwise_mergeSort memberLE_trans memberLE_total
  have hsame : (ms.mergeSort memberLE).Perm (ms'.mergeSort memberLE) :=
    (List.mergeSort_perm ms memberLE).trans (hperm.trans (List.mergeSort_perm ms' memberLE).symm)
  refine List.Perm.eq_of_pairwise (fun x y hx hy hxy hyx => ?_) (hsorted ms) (hsorted ms') hsame
  have hx' : x ∈ ms := (List.mergeSort_perm ms memberLE).mem_iff.1 hx
  have hy' : y ∈ ms := hperm.mem_iff.2 ((List.mergeSort_perm ms' memberLE).mem_iff.1 hy)
  have hname : x.1 = y.1 := by
    simp only [memberLE, Bool.not_eq_true', decide_eq_false_iff_not, not_lt] at hxy hyx
    exact le_antisymm hxy hyx
  exact List.inj_on_of_nodup_map hdistinct hx' hy' hname

theorem canonicalJson_array (items : List Json) :
    canonicalJson (.array items) = "[" ++ ",".intercalate (items.map canonicalJson) ++ "]" := by
  rw [canonicalJson.eq_1]
  congr 3
  exact List.attach_map_val

/-- The members of an object, each written in canonical form, in the object's order. -/
def canonicalMembers (fields : List (String × Json)) : List (String × String) :=
  fields.map fun kv => (kv.1, canonicalJson kv.2)

@[simp] theorem canonicalMembers_names (fields : List (String × Json)) :
    (canonicalMembers fields).map (·.1) = fields.map (·.1) := by
  simp [canonicalMembers]

theorem canonicalJson_object (fields : List (String × Json)) :
    canonicalJson (.object fields) = "\x7b" ++ ",".intercalate
      (((canonicalMembers fields).mergeSort memberLE).map fun (k, v) => quoteJson k ++ ":" ++ v) ++
      "\x7d" := by
  rw [canonicalJson.eq_2]
  congr 5
  exact List.attach_map_val (f := fun kv : String × Json => (kv.1, canonicalJson kv.2))

/-- Values that differ only in the order of object members have one canonical form. -/
theorem canonicalJson_eq_of_reordered {j j' : Json} (h : j.Reordered j') :
    canonicalJson j = canonicalJson j' := by
  induction h with
  | refl j => rfl
  | @array xs ys hlen _ ih =>
    have hitems : xs.map canonicalJson = ys.map canonicalJson :=
      List.ext_getElem (by simp [hlen]) fun i hx hy => by
        simpa using ih i (by simpa using hx) (by simpa using hy)
    rw [canonicalJson_array, canonicalJson_array, hitems]
  | @object fs gs fs' hdistinct hlen hnames _ hperm ih =>
    have hmembers : canonicalMembers fs = canonicalMembers fs' :=
      List.ext_getElem (by simp [canonicalMembers, hlen]) fun i hx hy => by
        have hx' : i < fs.length := by simpa [canonicalMembers] using hx
        have hy' : i < fs'.length := by simpa [canonicalMembers] using hy
        simp only [canonicalMembers, List.getElem_map]
        rw [hnames i hx' hy', ih i hx' hy']
    have hdistinct' : ((canonicalMembers fs').map (·.1)).Nodup := by
      rwa [← hmembers, canonicalMembers_names]
    have hperm' : (canonicalMembers fs').Perm (canonicalMembers gs) := hperm.map _
    rw [canonicalJson_object, canonicalJson_object, hmembers, mergeSort_eq_of_perm hdistinct' hperm']

/-- Calls of one tool in one scope whose arguments differ only in the order of object members
share a key. -/
theorem forToolCall_eq_of_reordered (scope tool : String) {args args' : Json}
    (h : args.Reordered args') : forToolCall scope tool args = forToolCall scope tool args' := by
  rw [forToolCall, forToolCall, canonicalJson_eq_of_reordered h]

end IdempotencyKey

namespace Resilience

/-- The key a side-effecting call is deduplicated under. -/
def toolKey (inv : ToolInvocation) : String :=
  (IdempotencyKey.forToolCall inv.scope inv.name inv.arguments).text

/-- What a side-effecting call runs under the guard: one attempt, keeping only its content. -/
def toolOp (attempt : ToolService) (inv : ToolInvocation) : Action (Except Fault String) := do
  return (← attempt inv).map (·.content)

theorem idempotent_eq_ensure (r : Resilience) (attempt : ToolService) (inv : ToolInvocation) :
    r.idempotent attempt inv =
      (r.idempotency.ensure (toolKey inv) textKeeping (toolOp attempt inv)).bind fun content =>
        .pure (content.map fun c => ⟨inv.id, c⟩) := rfl

end Resilience

end ResilientAgent
