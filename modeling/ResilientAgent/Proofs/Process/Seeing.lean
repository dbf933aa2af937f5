import ResilientAgent.Proofs.Process.Keeps

/-!
# Invariants through a view of the world

`Proc.seeing view keep p` runs `p` with a changed view of the world: its reads see `view w`, and
a world `p` writes lands as `keep old new`. An invariant that the view does not break, and that
`keep` brings back from what `p` wrote, is kept by the viewed process as it is by `p`
(`Keeps.seeing`).

The proof is a simulation. Each state of the viewed process stands for a state of `p`
(`Proc.SeenAs`): its translation, or its translation just after the read that comes before each
of `p`'s writes. A step of the viewed process is that read, or a step of `p` from the world as
seen (`SeenAs.step`); so the states seen through the view of a closed set are closed
(`Closed.seenAs`).
-/

namespace ResilientAgent

namespace Proc

variable {σ : Type}

section Seeing

variable (view : σ → σ) (keep : σ → σ → σ)

/-- How a state of a process stands once run through `seeing view keep`: its translation, with
the parts of a `first`, a `join` or a `guard` standing each for its own part, and a write as
its translation or as the write itself, once the world before it has been read. -/
inductive SeenAs : {α : Type} → Proc σ α → Proc σ α → Prop
  | pure {α : Type} (a : α) : SeenAs (.pure a) (.pure a)
  | read {α : Type} (next : σ → Proc σ α) :
      SeenAs (.read fun s => seeing view keep (next (view s))) (.read next)
  | write {α : Type} (s : σ) (next : Proc σ α) :
      SeenAs (.read fun old => .write (keep old s) (seeing view keep next)) (.write s next)
  /-- A write whose world before it has been read. -/
  | writing {α : Type} (old s : σ) (next : Proc σ α) :
      SeenAs (.write (keep old s) (seeing view keep next)) (.write s next)
  | await {α : Type} (ready : σ → Bool) (d : Option Nat) (next : Proc σ α) :
      SeenAs (.await (fun s => ready (view s)) d (seeing view keep next)) (.await ready d next)
  | spawn {α : Type} (task : Proc σ Unit) (next : Proc σ α) :
      SeenAs (.spawn (seeing view keep task) (seeing view keep next)) (.spawn task next)
  | first {α β γ : Type} {l' l : Proc σ β} {r' r : Proc σ γ}
      (next : β ⊕ γ → Proc σ α) (hl : SeenAs l' l) (hr : SeenAs r' r) :
      SeenAs (.first l' r' fun x => seeing view keep (next x)) (.first l r next)
  | join {α β : Type} {n : Nat} {cs' cs : Fin n → Proc σ β} (abort : β → Bool)
      (next : β ⊕ List β → Proc σ α) (hcs : ∀ i, SeenAs (cs' i) (cs i)) :
      SeenAs (.join n cs' abort fun x => seeing view keep (next x)) (.join n cs abort next)
  | guard {α β : Type} {body' body : Proc σ β} (undo : σ → σ) (cleanup : Proc σ Unit)
      (next : β → Proc σ α) (hbody : SeenAs body' body) :
      SeenAs (.guard (fun s => keep s (undo (view s))) (seeing view keep cleanup) body'
        fun x => seeing view keep (next x)) (.guard undo cleanup body next)

variable {view keep} {I : σ → Prop} {α β : Type}

theorem seenAs_seeing (p : Proc σ α) : SeenAs view keep (seeing view keep p) p := by
  induction p with
  | pure a => exact .pure a
  | read next _ => exact .read next
  | write s next _ => exact .write s next
  | await ready d next _ => exact .await ready d next
  | first l r next ihl ihr _ => exact .first next ihl ihr
  | join n cs abort next ihcs _ => exact .join abort next ihcs
  | guard undo cleanup body next _ ihbody _ => exact .guard undo cleanup next ihbody
  | spawn task next _ _ => exact .spawn task next

theorem SeenAs.eq_pure {q : Proc σ α} {a : α} (h : SeenAs view keep (.pure a) q) :
    q = .pure a := by
  cases h
  rfl

theorem seenAs_update {n : Nat} {cs' cs : Fin n → Proc σ β}
    (hcs : ∀ j, SeenAs view keep (cs' j) (cs j)) (i : Fin n) {c' c : Proc σ β}
    (hc : SeenAs view keep c' c) (j : Fin n) :
    SeenAs view keep (Function.update cs' i c' j) (Function.update cs i c j) := by
  by_cases hj : j = i
  · subst hj
    simpa using hc
  · simpa [Function.update_of_ne hj] using hcs j

theorem SeenAs.frame (hv : ∀ w, I w → I (view w)) (hk : ∀ old new, I new → I (keep old new))
    {T : Proc σ Unit → Prop} {q' q : Proc σ α} (hseen : SeenAs view keep q' q)
    (hq : Frame I T q) : Frame I (fun t' => ∃ t, T t ∧ SeenAs view keep t' t) q' := by
  induction hseen with
  | pure | read | write | writing | await => trivial
  | spawn task next => exact frame_spawn.2 ⟨task, frame_spawn.1 hq, seenAs_seeing task⟩
  | first next _ _ ihl ihr =>
    obtain ⟨hl, hr⟩ := frame_first.1 hq
    exact frame_first.2 ⟨ihl hl, ihr hr⟩
  | join abort next _ ih => exact frame_join.2 fun i => ih i (frame_join.1 hq i)
  | guard undo cleanup next _ ih =>
    obtain ⟨hundo, hcleanup, hbody⟩ := frame_guard.1 hq
    exact frame_guard.2 ⟨fun w hw => hk _ _ (hundo _ (hv _ hw)),
      ⟨cleanup, hcleanup, seenAs_seeing cleanup⟩, ih hbody⟩

/-- A step of a viewed process from a world where `I` holds leads to such a world, and to a
state that stands for the same state of the process, having read the world for a write it is
about to make, or for a state the process steps to from a world where `I` holds. -/
theorem SeenAs.step (hv : ∀ w, I w → I (view w)) (hk : ∀ old new, I new → I (keep old new))
    {T : Proc σ Unit → Prop} {q' q : Proc σ α} (hseen : SeenAs view keep q' q)
    (hq : ∀ u u' q₁, I u → Step u q u' q₁ → I u') (hframe : Frame I T q) {w w' : σ}
    {q'' : Proc σ α} (hw : I w) (hs : Step w q' w' q'') :
    I w' ∧ (SeenAs view keep q'' q ∨
      ∃ u u' q₁, I u ∧ Step u q u' q₁ ∧ SeenAs view keep q'' q₁) := by
  induction hseen generalizing w w' with
  | pure a => cases hs
  | read next =>
    cases hs
    exact ⟨hw, .inr ⟨_, _, _, hv w hw, .read, seenAs_seeing _⟩⟩
  | write s next =>
    cases hs
    exact ⟨hw, .inl (.writing w s next)⟩
  | writing old s next =>
    cases hs
    have hs : I s := hq _ _ _ (hv w hw) .write
    exact ⟨hk old s hs, .inr ⟨_, _, _, hv w hw, .write, seenAs_seeing _⟩⟩
  | await ready d next =>
    cases hs with
    | await hready => exact ⟨hw, .inr ⟨_, _, _, hv w hw, .await hready, seenAs_seeing _⟩⟩
  | spawn task next =>
    cases hs
    exact ⟨hw, .inr ⟨_, _, _, hv w hw, .spawn, seenAs_seeing _⟩⟩
  | first next hl hr ihl ihr =>
    obtain ⟨hfl, hfr⟩ := frame_first.1 hframe
    cases hs with
    | firstLeft hs =>
      obtain ⟨hw', hnext⟩ := ihl (fun u u' l₁ hu hs => hq u u' _ hu (.firstLeft hs)) hfl hw hs
      refine ⟨hw', ?_⟩
      rcases hnext with hl' | ⟨u, u', l₁, hu, hs', hl'⟩
      · exact .inl (.first next hl' hr)
      · exact .inr ⟨u, u', _, hu, .firstLeft hs', .first next hl' hr⟩
    | firstRight hs =>
      obtain ⟨hw', hnext⟩ :=
        ihr (fun u u' r₁ hu hs => hq u u' _ hu (.firstRight hs)) hfr hw hs
      refine ⟨hw', ?_⟩
      rcases hnext with hr' | ⟨u, u', r₁, hu, hs', hr'⟩
      · exact .inl (.first next hl hr')
      · exact .inr ⟨u, u', _, hu, .firstRight hs', .first next hl hr'⟩
    | firstLeftDone =>
      obtain rfl := hl.eq_pure
      exact ⟨((hr.frame hv hk hfr).release hw).1,
        .inr ⟨_, _, _, hv w hw, .firstLeftDone, seenAs_seeing _⟩⟩
    | firstRightDone =>
      obtain rfl := hr.eq_pure
      exact ⟨((hl.frame hv hk hfl).release hw).1,
        .inr ⟨_, _, _, hv w hw, .firstRightDone, seenAs_seeing _⟩⟩
  | @join _ _ n cs' cs abort next hcs ih =>
    have hfcs := frame_join.1 hframe
    cases hs with
    | joinChild i hs =>
      obtain ⟨hw', hnext⟩ :=
        ih i (fun u u' c₁ hu hs => hq u u' _ hu (.joinChild i hs)) (hfcs i) hw hs
      refine ⟨hw', ?_⟩
      rcases hnext with hc | ⟨u, u', c₁, hu, hs', hc⟩
      · exact .inl (.join abort next fun j => by simpa using seenAs_update hcs i hc j)
      · exact .inr ⟨u, u', _, hu, .joinChild i hs', .join abort next (seenAs_update hcs i hc)⟩
    | joinAbort i hdone habort =>
      have hci := hcs i
      rw [hdone] at hci
      have hframe' := (SeenAs.join abort next hcs).frame hv hk hframe
      exact ⟨(hframe'.release hw).1,
        .inr ⟨_, _, _, hv w hw, .joinAbort i hci.eq_pure habort, seenAs_seeing _⟩⟩
    | joinDone values hdone hgo =>
      have hvalues : ∀ i, cs i = .pure (values i) := fun i => by
        have hci := hcs i
        rw [hdone i] at hci
        exact hci.eq_pure
      exact ⟨hw, .inr ⟨_, _, _, hv w hw, .joinDone values hvalues hgo, seenAs_seeing _⟩⟩
  | guard undo cleanup next hbody ih =>
    obtain ⟨-, -, hfbody⟩ := frame_guard.1 hframe
    cases hs with
    | guardBody hs =>
      obtain ⟨hw', hnext⟩ :=
        ih (fun u u' b₁ hu hs => hq u u' _ hu (.guardBody hs)) hfbody hw hs
      refine ⟨hw', ?_⟩
      rcases hnext with hb | ⟨u, u', b₁, hu, hs', hb⟩
      · exact .inl (.guard undo cleanup next hb)
      · exact .inr ⟨u, u', _, hu, .guardBody hs', .guard undo cleanup next hb⟩
    | guardDone =>
      obtain rfl := hbody.eq_pure
      exact ⟨hw, .inr ⟨_, _, _, hv w hw, .guardDone, seenAs_seeing _⟩⟩

/-- The states seen through the view of a closed set of states are closed, with the tasks seen
through the view. -/
theorem Closed.seenAs (hv : ∀ w, I w → I (view w))
    (hk : ∀ old new, I new → I (keep old new)) {T : Proc σ Unit → Prop} {Q : α → Prop}
    {S : Proc σ α → Prop} (hS : Closed I T Q S) :
    Closed I (fun t' => ∃ t, T t ∧ SeenAs view keep t' t) Q
      (fun q' => ∃ q, S q ∧ SeenAs view keep q' q) where
  step := by
    rintro q' ⟨q, hq, hseen⟩ w w' q'' hw hs
    have hq' : ∀ u u' q₁, I u → Step u q u' q₁ → I u' :=
      fun u u' q₁ hu hs => (hS.step q hq u u' q₁ hu hs).1
    obtain ⟨hw', hnext⟩ := hseen.step hv hk hq' (hS.frame q hq) hw hs
    refine ⟨hw', ?_⟩
    rcases hnext with hseen' | ⟨u, u', q₁, hu, hs', hseen'⟩
    · exact ⟨q, hq, hseen'⟩
    · exact ⟨q₁, (hS.step q hq u u' q₁ hu hs').2, hseen'⟩
  frame := by
    rintro q' ⟨q, hq, hseen⟩
    exact hseen.frame hv hk (hS.frame q hq)
  value := by
    rintro a ⟨q, hq, hseen⟩
    rw [hseen.eq_pure] at hq
    exact hS.value a hq

/-- A process keeps `I` through a view that keeps `I` and a `keep` that brings `I` back from
what the process wrote. -/
theorem Keeps.seeing (hv : ∀ w, I w → I (view w)) (hk : ∀ old new, I new → I (keep old new))
    {Q : α → Prop} {p : Proc σ α} (h : Keeps I Q p) : Keeps I Q (seeing view keep p) := by
  have htasks := (keepsTask_closed (I := I)).seenAs hv hk
  have hsub : ∀ t', (∃ t, KeepsTask I t ∧ SeenAs view keep t' t) → KeepsTask I t' :=
    fun t' ht' => ⟨_, ht', htasks⟩
  exact ⟨_, ⟨p, h, seenAs_seeing p⟩, ((keeps_closed (Q := Q)).seenAs hv hk).mono_tasks hsub⟩

end Seeing

end Proc

end ResilientAgent
