import ResilientAgent.Proofs.Process.Turns

/-!
# Runs among other processes

A process seldom runs alone: between any two of its steps the rest of the system may change
the world, while the process waits or simply because the executor runs something else first.
`Proc.Exec` is a run of one process in that setting: its own steps (`Proc.Step`), and between
them any change of the world whatever, as long as the process has not finished. What is proved
of every such run holds whatever the other processes do and whatever order the executor picks.

The lemmas take a finished run apart the way the program is written: a run of `p >>= k` is a
run of `p` to its end and then of `k` on its value (`Exec.of_bind_pure`); a read sees some
world, a write sets the world, an `await` is passed at a world where its condition holds; and of
the two sides of a `first`, one finishes, having seen the other's steps as changes made by the
rest of the system, and the continuation runs on its value (`Exec.of_first`); likewise for the
children of a `join` (`Exec.of_join`). `Proc.Returns` says what every finished run ends with.
-/

namespace ResilientAgent

namespace Proc

variable {σ : Type}

/-- A run of a process among others: its own steps and, while it has not finished, any change
the rest of the system makes to the world in between. -/
inductive Exec : {α : Type} → σ → Proc σ α → σ → Proc σ α → Prop
  | refl {α : Type} {w : σ} {p : Proc σ α} : Exec w p w p
  | step {α : Type} {w w₁ w' : σ} {p p₁ p' : Proc σ α} (h : Step w p w₁ p₁)
      (rest : Exec w₁ p₁ w' p') : Exec w p w' p'
  | other {α : Type} {w w₁ w' : σ} {p p' : Proc σ α} (hrun : p.result? = none)
      (rest : Exec w₁ p w' p') : Exec w p w' p'

/-- Every value `p` ends with, whatever the rest of the system does meanwhile, satisfies `Q`. -/
def Returns {α : Type} (Q : α → Prop) (p : Proc σ α) : Prop :=
  ∀ w w' a, Exec w p w' (.pure a) → Q a

namespace Exec

variable {α β : Type} {w w' : σ} {b : α}

theorem of_pure {a : α} {q : Proc σ α} (h : Exec w (.pure a) w' q) : w' = w ∧ q = .pure a := by
  cases h with
  | refl => exact ⟨rfl, rfl⟩
  | step h => cases h
  | other hrun => simp [result?] at hrun

theorem eq_of_pure {a : α} (h : Exec w (.pure a) w' (.pure b)) : b = a := by
  obtain ⟨-, h⟩ := of_pure h
  cases h
  rfl

theorem restart {p : Proc σ α} {w₁ : σ} (h : Exec w₁ p w' (.pure b)) (w : σ) :
    ∃ v, Exec w p v (.pure b) := by
  rcases eq_pure_or_result?_eq_none p with ⟨a, rfl⟩ | hrun
  · obtain ⟨-, hq⟩ := of_pure h
    cases hq
    exact ⟨w, .refl⟩
  · exact ⟨w', .other hrun h⟩

theorem snoc {p q q' : Proc σ α} {w₁ u u' : σ} (h : Exec w p w₁ q) (hs : Step u q u' q') :
    Exec w p u' q' := by
  induction h with
  | refl => exact .other hs.result?_eq_none (.step hs .refl)
  | step h _ ih => exact .step h (ih hs)
  | other hrun _ ih => exact .other hrun (ih hs)

theorem of_bind {p : Proc σ α} {k : α → Proc σ β} {q : Proc σ β} (h : Exec w (p.bind k) w' q) :
    (∃ p', Exec w p w' p' ∧ q = p'.bind k) ∨ ∃ w₁ a, Exec w p w₁ (.pure a) ∧ Exec w₁ (k a) w' q := by
  -- induction on the run, with `p` the part of the program not yet run
  generalize hb : p.bind k = r at h
  induction h generalizing p with
  | refl => exact .inl ⟨p, .refl, hb.symm⟩
  | step hs rest ih =>
    rcases eq_pure_or_result?_eq_none p with ⟨a, rfl⟩ | hnone
    · subst hb
      exact .inr ⟨_, a, .refl, .step hs rest⟩
    · rw [← hb] at hs
      obtain ⟨p₁, hp₁, rfl⟩ := (step_bind hnone).1 hs
      rcases ih rfl with ⟨p', hr, rfl⟩ | ⟨w₂, a, hr, hk⟩
      · exact .inl ⟨p', .step hp₁ hr, rfl⟩
      · exact .inr ⟨w₂, a, .step hp₁ hr, hk⟩
  | other hrun rest ih =>
    rcases eq_pure_or_result?_eq_none p with ⟨a, rfl⟩ | hnone
    · subst hb
      exact .inr ⟨_, a, .refl, .other hrun rest⟩
    · rcases ih hb with ⟨p', hr, rfl⟩ | ⟨w₂, a, hr, hk⟩
      · exact .inl ⟨p', .other hnone hr, rfl⟩
      · exact .inr ⟨w₂, a, .other hnone hr, hk⟩

/-- A finished run of `p >>= k` is a finished run of `p` and one of `k` on its value. -/
theorem of_bind_pure {p : Proc σ α} {k : α → Proc σ β} {c : β} (h : Exec w (p.bind k) w' (.pure c)) :
    ∃ w₁ a, Exec w p w₁ (.pure a) ∧ Exec w₁ (k a) w' (.pure c) := by
  rcases h.of_bind with ⟨p', hp, hq⟩ | hdone
  · -- the run stopped inside `p`, so `p` had finished there
    rcases eq_pure_or_result?_eq_none p' with ⟨a, rfl⟩ | hnone
    · exact ⟨w', a, hp, hq ▸ .refl⟩
    · have := result?_bind hnone k
      rw [← hq] at this
      simp [result?] at this
  · exact hdone

theorem eq_of_bind_const {p : Proc σ α} {c d : β} (h : Exec w (p.bind fun _ => .pure c) w' (.pure d)) :
    d = c := by
  obtain ⟨w₁, a, -, h⟩ := of_bind_pure h
  exact eq_of_pure h

theorem of_read {next : σ → Proc σ α} (h : Exec w (.read next) w' (.pure b)) :
    ∃ v, Exec v (next v) w' (.pure b) := by
  generalize hp : Proc.read next = p at h
  generalize hq : Proc.pure b = q at h
  induction h with
  | refl => subst hp; cases hq
  | step hs rest => subst hp hq; cases hs; exact ⟨_, rest⟩
  | other _ _ ih => exact ih hp hq

theorem of_write {s : σ} {next : Proc σ α} (h : Exec w (.write s next) w' (.pure b)) :
    Exec s next w' (.pure b) := by
  generalize hp : Proc.write s next = p at h
  generalize hq : Proc.pure b = q at h
  induction h with
  | refl => subst hp; cases hq
  | step hs rest => subst hp hq; cases hs; exact rest
  | other _ _ ih => exact ih hp hq

theorem of_await {ready : σ → Bool} {d : Option Nat} {next : Proc σ α}
    (h : Exec w (.await ready d next) w' (.pure b)) : ∃ v, ready v = true ∧ Exec v next w' (.pure b) := by
  generalize hp : Proc.await ready d next = p at h
  generalize hq : Proc.pure b = q at h
  induction h with
  | refl => subst hp; cases hq
  | step hs rest => subst hp hq; cases hs with | await hready => exact ⟨_, hready, rest⟩
  | other _ _ ih => exact ih hp hq

theorem of_modify_bind {f : σ → σ} {k : Unit → Proc σ α} (h : Exec w ((Proc.modify f).bind k) w' (.pure b)) :
    ∃ v, Exec (f v) (k ()) w' (.pure b) := by
  obtain ⟨v, hv⟩ := of_read h
  exact ⟨v, of_write hv⟩

/-- Of the two sides of a finished `first`, one finished first, and the continuation ran on its
value; each side's run sees the other's steps as changes made by the rest of the system. -/
theorem of_first {γ δ : Type} {l : Proc σ γ} {r : Proc σ δ} {next : γ ⊕ δ → Proc σ α}
    (h : Exec w (.first l r next) w' (.pure b)) :
    (∃ v x u, Exec w l v (.pure x) ∧ Exec u (next (.inl x)) w' (.pure b)) ∨
      ∃ v y u, Exec w r v (.pure y) ∧ Exec u (next (.inr y)) w' (.pure b) := by
  generalize hp : Proc.first l r next = p at h
  generalize hq : Proc.pure b = q at h
  induction h generalizing l r with
  | refl => subst hp; cases hq
  | step hs rest ih =>
    subst hp hq
    cases hs with
    | firstLeft hl =>
      rcases ih rfl rfl with ⟨v, x, u, hx, hk⟩ | ⟨v, y, u, hy, hk⟩
      · exact .inl ⟨v, x, u, .step hl hx, hk⟩
      · obtain ⟨v', hy'⟩ := hy.restart _
        exact .inr ⟨v', y, u, hy', hk⟩
    | firstRight hr =>
      rcases ih rfl rfl with ⟨v, x, u, hx, hk⟩ | ⟨v, y, u, hy, hk⟩
      · obtain ⟨v', hx'⟩ := hx.restart _
        exact .inl ⟨v', x, u, hx', hk⟩
      · exact .inr ⟨v, y, u, .step hr hy, hk⟩
    | firstLeftDone => exact .inl ⟨_, _, _, .refl, rest⟩
    | firstRightDone => exact .inr ⟨_, _, _, .refl, rest⟩
  | other _ _ ih =>
    rcases ih hp hq with ⟨v, x, u, hx, hk⟩ | ⟨v, y, u, hy, hk⟩
    · obtain ⟨v', hx'⟩ := hx.restart _
      exact .inl ⟨v', x, u, hx', hk⟩
    · obtain ⟨v', hy'⟩ := hy.restart _
      exact .inr ⟨v', y, u, hy', hk⟩


theorem of_guard {γ : Type} {undo : σ → σ} {cleanup : Proc σ Unit} {body : Proc σ γ}
    {next : γ → Proc σ α} (h : Exec w (.guard undo cleanup body next) w' (.pure b)) :
    ∃ v x u, Exec w body v (.pure x) ∧ Exec u (next x) w' (.pure b) := by
  generalize hp : Proc.guard undo cleanup body next = p at h
  generalize hq : Proc.pure b = q at h
  induction h generalizing body with
  | refl => subst hp; cases hq
  | step hs rest ih =>
    subst hp hq
    cases hs with
    | guardBody hbody =>
      obtain ⟨v, x, u, hx, hk⟩ := ih rfl rfl
      exact ⟨v, x, u, .step hbody hx, hk⟩
    | guardDone => exact ⟨_, _, _, .refl, rest⟩
  | other _ _ ih =>
    obtain ⟨v, x, u, hx, hk⟩ := ih hp hq
    obtain ⟨v', hx'⟩ := hx.restart _
    exact ⟨v', x, u, hx', hk⟩

/-- A finished group either was ended by a child's value that aborts it, or ran every child
to its end; each child's run sees its siblings' steps as changes made by the rest of the
system. -/
theorem of_join {γ : Type} {n : Nat} {cs : Fin n → Proc σ γ} {abort : γ → Bool}
    {next : γ ⊕ List γ → Proc σ α} (h : Exec w (.join n cs abort next) w' (.pure b)) :
    (∃ i x u, (∃ v, Exec w (cs i) v (.pure x)) ∧ abort x = true ∧
        Exec u (next (.inl x)) w' (.pure b)) ∨
      ∃ values : Fin n → γ, (∀ i, ∃ v, Exec w (cs i) v (.pure (values i))) ∧
        ∃ u, Exec u (next (.inr (List.ofFn values))) w' (.pure b) := by
  generalize hp : Proc.join n cs abort next = p at h
  generalize hq : Proc.pure b = q at h
  induction h generalizing cs with
  | refl => subst hp; cases hq
  | @step w₀ w₁ _ _ _ _ hs rest ih =>
    subst hp hq
    cases hs with
    | @joinChild _ _ _ _ _ _ _ _ i c' hchild =>
      have hback : ∀ j x, (∃ v, Exec w₁ (Function.update cs i c' j) v (.pure x)) →
          ∃ v, Exec w₀ (cs j) v (.pure x) := by
        rintro j x ⟨v, hv⟩
        by_cases hji : j = i
        · subst hji
          rw [Function.update_self] at hv
          exact ⟨v, .step hchild hv⟩
        · rw [Function.update_of_ne hji] at hv
          exact hv.restart _
      rcases ih rfl rfl with ⟨j, x, u, hx, habort, hk⟩ | ⟨values, hvalues, u, hk⟩
      · exact .inl ⟨j, x, u, hback j x hx, habort, hk⟩
      · exact .inr ⟨values, fun j => hback j _ (hvalues j), u, hk⟩
    | joinAbort i hdone habort => exact .inl ⟨i, _, _, ⟨w₀, by rw [hdone]; exact .refl⟩, habort, rest⟩
    | joinDone values hdone _ =>
      exact .inr ⟨values, fun i => ⟨w₀, by rw [hdone i]; exact .refl⟩, _, rest⟩
  | @other w₀ w₁ _ _ _ _ _ ih =>
    have hback : ∀ j x, (∃ v, Exec w₁ (cs j) v (.pure x)) → ∃ v, Exec w₀ (cs j) v (.pure x) := by
      rintro j x ⟨v, hv⟩
      exact hv.restart _
    rcases ih hp hq with ⟨j, x, u, hx, habort, hk⟩ | ⟨values, hvalues, u, hk⟩
    · exact .inl ⟨j, x, u, hback j x hx, habort, hk⟩
    · exact .inr ⟨values, fun j => hback j _ (hvalues j), u, hk⟩

end Exec

end Proc

end ResilientAgent
