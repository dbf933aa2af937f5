import Mathlib.Logic.Relation
import ResilientAgent.Proofs.Process.Exec
import ResilientAgent.Proofs.Process.Seeing

/-!
# Runs amid a rest of the system that keeps to a rule

`Proc.Exec` lets the rest of the system change the world in any way between the steps of a
process. What one process leaves behind is then only what no one else can spoil; to say more,
the others must keep away from what it works on. `Proc.ExecWithin R` is a run in which each
change the rest of the system makes between the process's steps is a step of `R`, the *rely*
of rely-guarantee reasoning.

`Proc.Triple R P p Q` is partial correctness over such runs: a finished run of `p` from a world
where `P` holds ends with a value and a world satisfying `Q`. The rules follow the program: a
value (`Triple.pure`), a sequence (`Triple.bind`), a read of a world the others may have moved
on since the last step (`Triple.read`, for a precondition `R` keeps), a write (`Triple.write`).
A stretch of the program that keeps an invariant the rest of the system keeps too ends where it
holds (`Keeps.triple`), so the invariants proved with `Proc.Keeps` carry over to these runs.

A program run through a view of the world is the viewed program piece by piece
(`seeing_bind`), and an atomic change of the world seen through a view lands where `keep` puts
it (`Triple.seeing_modifyGet`).
-/

namespace ResilientAgent

namespace Proc

variable {σ : Type}

/-- A run of a process among others that keep to `R`: its own steps and, while it has not
finished, changes of the world by the rest of the system, each a step of `R`. -/
inductive ExecWithin (R : σ → σ → Prop) : {α : Type} → σ → Proc σ α → σ → Proc σ α → Prop
  | refl {α : Type} {w : σ} {p : Proc σ α} : ExecWithin R w p w p
  | step {α : Type} {w w₁ w' : σ} {p p₁ p' : Proc σ α} (h : Step w p w₁ p₁)
      (rest : ExecWithin R w₁ p₁ w' p') : ExecWithin R w p w' p'
  | other {α : Type} {w w₁ w' : σ} {p p' : Proc σ α} (hrun : p.result? = none) (hR : R w w₁)
      (rest : ExecWithin R w₁ p w' p') : ExecWithin R w p w' p'

/-- A property of the world that every change within `R` keeps. -/
def Stable (R : σ → σ → Prop) (P : σ → Prop) : Prop :=
  ∀ u u', P u → R u u' → P u'

/-- Every finished run of `p` from a world where `P` holds, amid changes within `R`, ends with a
value and a world that satisfy `Q`. -/
def Triple {α : Type} (R : σ → σ → Prop) (P : σ → Prop) (p : Proc σ α) (Q : α → σ → Prop) :
    Prop :=
  ∀ w w' a, P w → ExecWithin R w p w' (.pure a) → Q a w'

variable {R : σ → σ → Prop} {α β : Type}

theorem Stable.reflTransGen {P : σ → Prop} (hP : Stable R P) {u u' : σ}
    (h : Relation.ReflTransGen R u u') (hu : P u) : P u' := by
  induction h with
  | refl => exact hu
  | tail _ hR ih => exact hP _ _ ih hR

namespace ExecWithin

variable {w w' : σ} {b : α}

theorem of_pure {a : α} {q : Proc σ α} (h : ExecWithin R w (.pure a) w' q) :
    w' = w ∧ q = .pure a := by
  cases h with
  | refl => exact ⟨rfl, rfl⟩
  | step h => cases h
  | other hrun => simp [result?] at hrun

theorem of_bind {p : Proc σ α} {k : α → Proc σ β} {q : Proc σ β}
    (h : ExecWithin R w (p.bind k) w' q) :
    (∃ p', ExecWithin R w p w' p' ∧ q = p'.bind k) ∨
      ∃ w₁ a, ExecWithin R w p w₁ (.pure a) ∧ ExecWithin R w₁ (k a) w' q := by
  -- induction on the run, with `p` the part of the program not yet run
  generalize hb : p.bind k = r at h
  induction h generalizing p with
  | refl => exact .inl ⟨p, .refl, hb.symm⟩
  | step hs rest ih =>
    rcases eq_pure_or_result?_eq_none p with ⟨a, rfl⟩ | hnone
    · subst hb
      exact .inr ⟨_, a, .refl, .step hs rest⟩
    · rw [← hb] at hs
      obtain ⟨p₁, hp₁, rfl⟩ := (step_bind hnone).1 hs
      rcases ih rfl with ⟨p', hr, rfl⟩ | ⟨w₂, a, hr, hk⟩
      · exact .inl ⟨p', .step hp₁ hr, rfl⟩
      · exact .inr ⟨w₂, a, .step hp₁ hr, hk⟩
  | other hrun hR rest ih =>
    rcases eq_pure_or_result?_eq_none p with ⟨a, rfl⟩ | hnone
    · subst hb
      exact .inr ⟨_, a, .refl, .other hrun hR rest⟩
    · rcases ih hb with ⟨p', hr, rfl⟩ | ⟨w₂, a, hr, hk⟩
      · exact .inl ⟨p', .other hnone hR hr, rfl⟩
      · exact .inr ⟨w₂, a, .other hnone hR hr, hk⟩

theorem of_bind_pure {p : Proc σ α} {k : α → Proc σ β} {c : β}
    (h : ExecWithin R w (p.bind k) w' (.pure c)) :
    ∃ w₁ a, ExecWithin R w p w₁ (.pure a) ∧ ExecWithin R w₁ (k a) w' (.pure c) := by
  rcases h.of_bind with ⟨p', hp, hq⟩ | hdone
  · -- the run stopped inside `p`, so `p` had finished there
    rcases eq_pure_or_result?_eq_none p' with ⟨a, rfl⟩ | hnone
    · exact ⟨w', a, hp, hq ▸ .refl⟩
    · have := result?_bind hnone k
      rw [← hq] at this
      simp [result?] at this
  · exact hdone

theorem of_read {next : σ → Proc σ α} (h : ExecWithin R w (.read next) w' (.pure b)) :
    ∃ v, Relation.ReflTransGen R w v ∧ ExecWithin R v (next v) w' (.pure b) := by
  generalize hp : Proc.read next = p at h
  generalize hq : Proc.pure b = q at h
  induction h with
  | refl => subst hp; cases hq
  | step hs rest => subst hp hq; cases hs; exact ⟨_, .refl, rest⟩
  | other _ hR _ ih =>
    obtain ⟨v, hv, hrest⟩ := ih hp hq
    exact ⟨v, Relation.ReflTransGen.head hR hv, hrest⟩

/-- A run among others that keep to `R` is a run among others. -/
theorem exec {p q : Proc σ α} (h : ExecWithin R w p w' q) : Exec w p w' q := by
  induction h with
  | refl => exact .refl
  | step hs _ ih => exact .step hs ih
  | other hrun _ _ ih => exact .other hrun ih

theorem of_write {s : σ} {next : Proc σ α} (h : ExecWithin R w (.write s next) w' (.pure b)) :
    ExecWithin R s next w' (.pure b) := by
  generalize hp : Proc.write s next = p at h
  generalize hq : Proc.pure b = q at h
  induction h with
  | refl => subst hp; cases hq
  | step hs rest => subst hp hq; cases hs; exact rest
  | other _ _ _ ih => exact ih hp hq

end ExecWithin

namespace Triple

variable {P : σ → Prop} {Q : α → σ → Prop}

theorem mono {P' : σ → Prop} {Q' : α → σ → Prop} {p : Proc σ α} (h : Triple R P p Q)
    (hP : ∀ w, P' w → P w) (hQ : ∀ a w, Q a w → Q' a w) : Triple R P' p Q' :=
  fun w w' a hw hrun => hQ a w' (h w w' a (hP w hw) hrun)

theorem of_imp {c : Prop} {p : Proc σ α} (h : c → Triple R P p Q) :
    Triple R (fun w => c ∧ P w) p Q :=
  fun w w' a hw hrun => h hw.1 w w' a hw.2 hrun

theorem of_exists {ι : Type} {P : ι → σ → Prop} {p : Proc σ α} (h : ∀ i, Triple R (P i) p Q) :
    Triple R (fun w => ∃ i, P i w) p Q :=
  fun w w' a ⟨i, hw⟩ hrun => h i w w' a hw hrun

theorem pure {a : α} (h : ∀ w, P w → Q a w) : Triple R P (.pure a) Q := by
  intro w w' b hw hrun
  obtain ⟨rfl, hq⟩ := hrun.of_pure
  cases hq
  exact h _ hw

theorem bind {p : Proc σ α} {k : α → Proc σ β} {S : β → σ → Prop} (hp : Triple R P p Q)
    (hk : ∀ a, Triple R (Q a) (k a) S) : Triple R P (p.bind k) S := by
  intro w w' c hw hrun
  obtain ⟨w₁, a, hp', hk'⟩ := hrun.of_bind_pure
  exact hk a w₁ w' c (hp w w₁ a hw hp') hk'

/-- A read sees a world the rest of the system may have moved on to, where `P` still holds;
the process goes on from exactly that world. -/
theorem read {next : σ → Proc σ α} (hP : Stable R P)
    (h : ∀ v, P v → Triple R (· = v) (next v) Q) : Triple R P (.read next) Q := by
  intro w w' b hw hrun
  obtain ⟨v, hv, hrest⟩ := hrun.of_read
  exact h v (hP.reflTransGen hv hw) v w' b rfl hrest

/-- After a write the process goes on from the world it wrote. -/
theorem write {s : σ} {next : Proc σ α} {N : σ → Prop} (hs : N s)
    (h : Triple R N next Q) : Triple R P (.write s next) Q :=
  fun _ w' b _ hrun => h s w' b hs hrun.of_write

end Triple

/-- A stretch of a program that keeps `I`, amid others that keep `I` too, ends where `I` holds,
with a value its invariant promises. -/
theorem Keeps.triple {I : σ → Prop} {Q : α → Prop} {p : Proc σ α} (h : Keeps I Q p)
    (hI : Stable R I) : Triple R I p (fun a w => Q a ∧ I w) := by
  intro w w' a hw hrun
  generalize hq : Proc.pure a = q at hrun
  induction hrun with
  | refl =>
    subst hq
    exact ⟨h.value, hw⟩
  | step hs _ ih =>
    obtain ⟨hw₁, h₁⟩ := h.step hw hs
    exact ih h₁ hw₁ hq
  | other _ hR _ ih => exact ih h (hI _ _ hw hR) hq

/-! ## Through a view of the world -/

section Seeing

variable (view : σ → σ) (keep : σ → σ → σ)

/-- A program seen through a view is its pieces seen through the view, one after another. -/
theorem seeing_bind (p : Proc σ α) (k : α → Proc σ β) :
    seeing view keep (p.bind k) = (seeing view keep p).bind fun a => seeing view keep (k a) := by
  induction p with
  | pure a => rfl
  | read next ih => simp only [bind, seeing, ih]
  | write s next ih => simp only [bind, seeing, ih]
  | await ready d next ih => simp only [bind, seeing, ih]
  | first l r next _ _ ih => simp only [bind, seeing, ih]
  | join n cs abort next _ ih => simp only [bind, seeing, ih]
  | guard undo cleanup body next _ _ ih => simp only [bind, seeing, ih]
  | spawn task next _ ih => simp only [bind, seeing, ih]

theorem modifyGet_eq (f : σ → α × σ) :
    Proc.modifyGet f = .read fun s => .write (f s).2 (.pure (f s).1) := by
  unfold Proc.modifyGet
  congr

theorem modify_eq (f : σ → σ) : Proc.modify f = Proc.modifyGet fun s => ((), f s) := rfl

variable {view keep}

theorem Triple.modifyGet {P : σ → Prop} (hP : Stable R P) (f : σ → α × σ) :
    Triple R P (Proc.modifyGet f) fun a w => ∃ s, P s ∧ a = (f s).1 ∧ w = (f s).2 := by
  rw [modifyGet_eq]
  refine Triple.read hP fun s hs => Triple.write (N := (· = (f s).2)) rfl ?_
  exact Triple.pure fun w hw => ⟨s, hs, rfl, hw⟩

/-- An atomic change seen through a view: the change is made to the view of one world, and
lands through `keep` on the world the others left just before the write. -/
theorem Triple.seeing_modifyGet {P : σ → Prop} (hP : Stable R P) (f : σ → α × σ) :
    Triple R P (seeing view keep (Proc.modifyGet f)) fun a w =>
      ∃ s old, P s ∧ P old ∧ a = (f (view s)).1 ∧ w = keep old (f (view s)).2 := by
  rw [modifyGet_eq]
  refine Triple.read hP fun s hs => Triple.mono (P := P) ?_ (fun w hw => hw ▸ hs) fun _ _ h => h
  refine Triple.read hP fun old hold => ?_
  refine Triple.write (N := (· = keep old (f (view s)).2)) rfl ?_
  exact Triple.pure fun w hw => ⟨s, old, hs, hold, rfl, hw⟩

end Seeing

end Proc

end ResilientAgent
