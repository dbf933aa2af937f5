import Mathlib.Logic.Function.Basic
import ResilientAgent.Process.Basic

/-!
# Turns of a process

The executor (`Executor.run`) runs each process until it has to wait, then moves to the next
one. This module gives that behaviour as a relation that allows every order the processes and
their parts could be run in, so that a statement proved for it holds whatever the scheduler
does.

A single instruction is a `Proc.Step`: a read or a write, passing an `await` whose condition
holds, starting a task, or a step inside a `guard`, a `first` or a `join`, whose parts may step
in any order; a part that finishes hands its value on, and a `first` or an aborted `join` drops
the parts still running. A process has *paused* (`Proc.Paused`) when it has finished or each part
still under way stands at an `await`. A *turn* (`Proc.Turn`) is a run of steps from one paused
point to the next: nothing else runs in the middle of a turn, so the reads and writes in it are
atomic, and between turns any other process may run. A turn may stop at an `await` whose
condition already holds, which the executor would pass; that only adds orders, and so
strengthens what is proved. Tasks a turn starts are left to whoever runs the other processes.

The lemmas below read a turn off a program the way it is written: a read, a write or the start
of a task is passed at once (`turn_read`), a turn of `p >>= k` is a turn of `p` that pauses, or a
run of `p` to its end followed by a turn of `k` (`turn_bind`), and a guard's turns are those of
its body (`turn_guard`). A process that keeps to a relation on every turn and on its drop is
`Proc.Confined`.
-/

namespace ResilientAgent

namespace Proc

variable {σ : Type}

/-- One instruction of a process, in any order its parts allow. -/
inductive Step : {α : Type} → σ → Proc σ α → σ → Proc σ α → Prop
  | read {α : Type} {w : σ} {next : σ → Proc σ α} : Step w (.read next) w (next w)
  | write {α : Type} {w s : σ} {next : Proc σ α} : Step w (.write s next) s next
  | await {α : Type} {w : σ} {ready : σ → Bool} {d : Option Nat} {next : Proc σ α}
      (hready : ready w = true) : Step w (.await ready d next) w next
  | spawn {α : Type} {w : σ} {task : Proc σ Unit} {next : Proc σ α} :
      Step w (.spawn task next) w next
  | guardBody {α β : Type} {w w' : σ} {undo : σ → σ} {cleanup : Proc σ Unit}
      {body body' : Proc σ β} {next : β → Proc σ α} (h : Step w body w' body') :
      Step w (.guard undo cleanup body next) w' (.guard undo cleanup body' next)
  | guardDone {α β : Type} {w : σ} {undo : σ → σ} {cleanup : Proc σ Unit} {b : β}
      {next : β → Proc σ α} : Step w (.guard undo cleanup (.pure b) next) w (next b)
  | firstLeft {α β γ : Type} {w w' : σ} {l l' : Proc σ β} {r : Proc σ γ}
      {next : β ⊕ γ → Proc σ α} (h : Step w l w' l') :
      Step w (.first l r next) w' (.first l' r next)
  | firstRight {α β γ : Type} {w w' : σ} {l : Proc σ β} {r r' : Proc σ γ}
      {next : β ⊕ γ → Proc σ α} (h : Step w r w' r') :
      Step w (.first l r next) w' (.first l r' next)
  | firstLeftDone {α β γ : Type} {w : σ} {b : β} {r : Proc σ γ} {next : β ⊕ γ → Proc σ α} :
      Step w (.first (.pure b) r next) (release r w).1 (next (.inl b))
  | firstRightDone {α β γ : Type} {w : σ} {l : Proc σ β} {c : γ} {next : β ⊕ γ → Proc σ α} :
      Step w (.first l (.pure c) next) (release l w).1 (next (.inr c))
  | joinChild {α β : Type} {w w' : σ} {n : Nat} {cs : Fin n → Proc σ β} {abort : β → Bool}
      {next : β ⊕ List β → Proc σ α} (i : Fin n) {c' : Proc σ β} (h : Step w (cs i) w' c') :
      Step w (.join n cs abort next) w' (.join n (Function.update cs i c') abort next)
  | joinAbort {α β : Type} {w : σ} {n : Nat} {cs : Fin n → Proc σ β} {abort : β → Bool}
      {next : β ⊕ List β → Proc σ α} (i : Fin n) {b : β} (hdone : cs i = .pure b)
      (habort : abort b = true) :
      Step w (.join n cs abort next) (release (.join n cs abort next) w).1 (next (.inl b))
  | joinDone {α β : Type} {w : σ} {n : Nat} {cs : Fin n → Proc σ β} {abort : β → Bool}
      {next : β ⊕ List β → Proc σ α} (values : Fin n → β) (hdone : ∀ i, cs i = .pure (values i))
      (hgo : ∀ i, abort (values i) = false) :
      Step w (.join n cs abort next) w (next (.inr (List.ofFn values)))

/-- A process that has gone as far as it can before it waits: it has finished, or each of its
parts still under way stands at an `await`. -/
inductive Paused : {α : Type} → Proc σ α → Prop
  | pure {α : Type} {a : α} : Paused (.pure a)
  | await {α : Type} {ready : σ → Bool} {d : Option Nat} {next : Proc σ α} :
      Paused (.await ready d next)
  | guard {α β : Type} {undo : σ → σ} {cleanup : Proc σ Unit} {body : Proc σ β}
      {next : β → Proc σ α} (hbody : Paused body) (hrunning : body.result? = none) :
      Paused (.guard undo cleanup body next)
  | first {α β γ : Type} {l : Proc σ β} {r : Proc σ γ} {next : β ⊕ γ → Proc σ α}
      (hl : Paused l) (hr : Paused r) (hlrunning : l.result? = none)
      (hrrunning : r.result? = none) : Paused (.first l r next)
  | join {α β : Type} {n : Nat} {cs : Fin n → Proc σ β} {abort : β → Bool}
      {next : β ⊕ List β → Proc σ α} (hcs : ∀ i, Paused (cs i))
      (hrunning : ∃ i, (cs i).result? = none) (hgo : ∀ i b, cs i = .pure b → abort b = false) :
      Paused (.join n cs abort next)

/-- Steps one after another. -/
inductive Runs : {α : Type} → σ → Proc σ α → σ → Proc σ α → Prop
  | refl {α : Type} {w : σ} {p : Proc σ α} : Runs w p w p
  | step {α : Type} {w w₁ w' : σ} {p p₁ p' : Proc σ α} (h : Step w p w₁ p₁)
      (rest : Runs w₁ p₁ w' p') : Runs w p w' p'

/-- A turn: the process runs, with nothing else in between, until it pauses. -/
def Turn {α : Type} (w : σ) (p : Proc σ α) (w' : σ) (p' : Proc σ α) : Prop :=
  Runs w p w' p' ∧ Paused p'

section Steps

variable {α β : Type}

@[simp] theorem bind_eq (p : Proc σ α) (k : α → Proc σ β) : (p >>= k) = p.bind k := rfl

@[simp] theorem pure_eq (a : α) : (Pure.pure a : Proc σ α) = .pure a := rfl

@[simp] theorem result?_pure (a : α) : (Proc.pure a : Proc σ α).result? = some a := rfl

theorem eq_pure_or_result?_eq_none (p : Proc σ α) : (∃ a, p = .pure a) ∨ p.result? = none := by
  cases p <;> simp [result?]

theorem Step.result?_eq_none {w w' : σ} {p p' : Proc σ α} (h : Step w p w' p') :
    p.result? = none := by
  cases h <;> rfl

theorem release_bind {p : Proc σ α} (hp : p.result? = none) (k : α → Proc σ β) (w : σ) :
    (p.bind k).release w = p.release w := by
  cases p <;> simp_all [result?, bind, release]

theorem bind_assoc {γ : Type} (p : Proc σ α) (f : α → Proc σ β) (k : β → Proc σ γ) :
    (p.bind f).bind k = p.bind fun a => (f a).bind k := by
  induction p with
  | pure a => rfl
  | read next ih => simp only [bind, ih]
  | write s next ih => simp only [bind, ih]
  | await ready d next ih => simp only [bind, ih]
  | first l r next _ _ ih => simp only [bind, ih]
  | join n cs abort next _ ih => simp only [bind, ih]
  | guard undo cleanup body next _ _ ih => simp only [bind, ih]
  | spawn task next _ ih => simp only [bind, ih]

theorem bind_pure (p : Proc σ α) : p.bind .pure = p := by
  induction p with
  | pure a => rfl
  | read next ih => simp only [bind, ih]
  | write s next ih => simp only [bind, ih]
  | await ready d next ih => simp only [bind, ih]
  | first l r next _ _ ih => simp only [bind, ih]
  | join n cs abort next _ ih => simp only [bind, ih]
  | guard undo cleanup body next _ _ ih => simp only [bind, ih]
  | spawn task next _ ih => simp only [bind, ih]

@[simp] theorem release_guard_fst {undo : σ → σ} {cleanup : Proc σ Unit} {body : Proc σ β}
    {next : β → Proc σ α} (w : σ) :
    ((Proc.guard undo cleanup body next).release w).1 = undo (body.release w).1 := rfl

theorem result?_bind {p : Proc σ α} (hp : p.result? = none) (k : α → Proc σ β) :
    (p.bind k).result? = none := by
  cases p <;> simp_all [result?, bind]

theorem step_bind {p : Proc σ α} (hp : p.result? = none) {k : α → Proc σ β} {w w' : σ}
    {q : Proc σ β} : Step w (p.bind k) w' q ↔ ∃ p', Step w p w' p' ∧ q = p'.bind k := by
  constructor
  · intro h
    cases p with
    | pure a => simp [result?] at hp
    | read next => cases h; exact ⟨_, .read, rfl⟩
    | write s next => cases h; exact ⟨_, .write, rfl⟩
    | await ready d next => cases h with | await hr => exact ⟨_, .await hr, rfl⟩
    | first l r next =>
      cases h with
      | firstLeft h => exact ⟨_, .firstLeft h, rfl⟩
      | firstRight h => exact ⟨_, .firstRight h, rfl⟩
      | firstLeftDone => exact ⟨_, .firstLeftDone, rfl⟩
      | firstRightDone => exact ⟨_, .firstRightDone, rfl⟩
    | join n cs abort next =>
      cases h with
      | joinChild i h => exact ⟨_, .joinChild i h, rfl⟩
      | joinAbort i hdone habort => exact ⟨_, .joinAbort i hdone habort, rfl⟩
      | joinDone values hdone hgo => exact ⟨_, .joinDone values hdone hgo, rfl⟩
    | guard undo cleanup body next =>
      cases h with
      | guardBody h => exact ⟨_, .guardBody h, rfl⟩
      | guardDone => exact ⟨_, .guardDone, rfl⟩
    | spawn task next => cases h; exact ⟨_, .spawn, rfl⟩
  · rintro ⟨p', h, rfl⟩
    cases h with
    | read => exact .read
    | write => exact .write
    | await hr => exact .await hr
    | spawn => exact .spawn
    | guardBody h => exact .guardBody h
    | guardDone => exact .guardDone
    | firstLeft h => exact .firstLeft h
    | firstRight h => exact .firstRight h
    | firstLeftDone => exact .firstLeftDone
    | firstRightDone => exact .firstRightDone
    | joinChild i h => exact .joinChild i h
    | joinAbort i hdone habort => exact .joinAbort i hdone habort
    | joinDone values hdone hgo => exact .joinDone values hdone hgo

theorem paused_bind {p : Proc σ α} (hp : p.result? = none) {k : α → Proc σ β} :
    Paused (p.bind k) ↔ Paused p := by
  constructor
  · intro h
    cases p with
    | pure a => simp [result?] at hp
    | await ready d next => exact .await
    | first l r next => cases h with | first hl hr hl' hr' => exact .first hl hr hl' hr'
    | join n cs abort next => cases h with | join hcs hrun hgo => exact .join hcs hrun hgo
    | guard undo cleanup body next => cases h with | guard hb hrun => exact .guard hb hrun
    | read next => cases h
    | write s next => cases h
    | spawn task next => cases h
  · intro h
    cases h with
    | pure => simp [result?] at hp
    | await => exact .await
    | guard hb hrun => exact .guard hb hrun
    | first hl hr hl' hr' => exact .first hl hr hl' hr'
    | join hcs hrun hgo => exact .join hcs hrun hgo

end Steps

namespace Runs

variable {α β : Type} {w w₁ w' : σ} {p p₁ p' : Proc σ α}

theorem single (h : Step w p w' p') : Runs w p w' p' := .step h .refl

theorem trans (h₁ : Runs w p w₁ p₁) (h₂ : Runs w₁ p₁ w' p') : Runs w p w' p' := by
  induction h₁ with
  | refl => exact h₂
  | step h _ ih => exact .step h (ih h₂)

theorem bind_left {k : α → Proc σ β} (h : Runs w p w' p') : Runs w (p.bind k) w' (p'.bind k) := by
  induction h with
  | refl => exact .refl
  | step h _ ih => exact .step ((step_bind h.result?_eq_none).2 ⟨_, h, rfl⟩) ih

theorem of_bind {k : α → Proc σ β} {q : Proc σ β} (h : Runs w (p.bind k) w' q) :
    (∃ p', Runs w p w' p' ∧ q = p'.bind k) ∨
      ∃ w₁ a, Runs w p w₁ (.pure a) ∧ Runs w₁ (k a) w' q := by
  -- induction on the steps, with `p` the part of the program not yet run
  generalize hb : p.bind k = r at h
  induction h generalizing p with
  | refl => exact .inl ⟨p, .refl, hb.symm⟩
  | step hs rest ih =>
    rcases eq_pure_or_result?_eq_none p with ⟨a, rfl⟩ | hnone
    · -- `p` has finished: the step is already one of `k a`
      subst hb
      exact .inr ⟨_, a, .refl, .step hs rest⟩
    · rw [← hb] at hs
      obtain ⟨p₁, hp₁, rfl⟩ := (step_bind hnone).1 hs
      rcases ih rfl with ⟨p', hr, rfl⟩ | ⟨w₂, a, hr, hk⟩
      · exact .inl ⟨p', .step hp₁ hr, rfl⟩
      · exact .inr ⟨w₂, a, .step hp₁ hr, hk⟩

variable {undo : σ → σ} {cleanup : Proc σ Unit} {next : β → Proc σ α}

theorem guard_body {body body' : Proc σ β} (h : Runs w body w' body') :
    Runs w (.guard undo cleanup body next) w' (.guard undo cleanup body' next) := by
  induction h with
  | refl => exact .refl
  | step h _ ih => exact .step (.guardBody h) ih

theorem of_guard {body : Proc σ β} {q : Proc σ α} (h : Runs w (.guard undo cleanup body next) w' q) :
    (∃ body', Runs w body w' body' ∧ q = .guard undo cleanup body' next) ∨
      ∃ w₁ b, Runs w body w₁ (.pure b) ∧ Runs w₁ (next b) w' q := by
  -- as for `of_bind`, with `body` the part of the body not yet run
  generalize hg : Proc.guard undo cleanup body next = r at h
  induction h generalizing body with
  | refl => exact .inl ⟨body, .refl, hg.symm⟩
  | step hs rest ih =>
    subst hg
    cases hs with
    | guardBody hb =>
      rcases ih rfl with ⟨body', hr, rfl⟩ | ⟨w₂, b, hr, hk⟩
      · exact .inl ⟨body', .step hb hr, rfl⟩
      · exact .inr ⟨w₂, b, .step hb hr, hk⟩
    | guardDone => exact .inr ⟨_, _, .refl, rest⟩

end Runs

section Turns

variable {α β : Type} {w w' : σ} {q : Proc σ α}

theorem turn_of_not_paused {p : Proc σ α} (hp : ¬ Paused p) :
    Turn w p w' q ↔ ∃ w₁ p₁, Step w p w₁ p₁ ∧ Turn w₁ p₁ w' q := by
  constructor
  · rintro ⟨hr, hq⟩
    cases hr with
    | refl => exact absurd hq hp
    | step h rest => exact ⟨_, _, h, rest, hq⟩
  · rintro ⟨w₁, p₁, h, hr, hq⟩
    exact ⟨.step h hr, hq⟩

theorem turn_pure {a : α} : Turn w (.pure a) w' q ↔ w' = w ∧ q = .pure a := by
  constructor
  · rintro ⟨hr, -⟩
    cases hr with
    | refl => exact ⟨rfl, rfl⟩
    | step h => cases h
  · rintro ⟨rfl, rfl⟩
    exact ⟨.refl, .pure⟩

theorem turn_of_only_step {p p₁ : Proc σ α} {w₁ : σ} (hp : ¬ Paused p) (hstep : Step w p w₁ p₁)
    (honly : ∀ w₂ p₂, Step w p w₂ p₂ → w₂ = w₁ ∧ p₂ = p₁) : Turn w p w' q ↔ Turn w₁ p₁ w' q := by
  rw [turn_of_not_paused hp]
  constructor
  · rintro ⟨w₂, p₂, h, ht⟩
    obtain ⟨rfl, rfl⟩ := honly w₂ p₂ h
    exact ht
  · intro ht
    exact ⟨_, _, hstep, ht⟩

@[simp] theorem turn_read {next : σ → Proc σ α} : Turn w (.read next) w' q ↔ Turn w (next w) w' q :=
  turn_of_only_step (by rintro ⟨⟩) .read (by rintro _ _ ⟨⟩; exact ⟨rfl, rfl⟩)

@[simp] theorem turn_write {s : σ} {next : Proc σ α} : Turn w (.write s next) w' q ↔ Turn s next w' q :=
  turn_of_only_step (by rintro ⟨⟩) .write (by rintro _ _ ⟨⟩; exact ⟨rfl, rfl⟩)

@[simp] theorem turn_spawn {task : Proc σ Unit} {next : Proc σ α} :
    Turn w (.spawn task next) w' q ↔ Turn w next w' q :=
  turn_of_only_step (by rintro ⟨⟩) .spawn (by rintro _ _ ⟨⟩; exact ⟨rfl, rfl⟩)

theorem turn_await {ready : σ → Bool} {d : Option Nat} {next : Proc σ α} :
    Turn w (.await ready d next) w' q ↔
      (w' = w ∧ q = .await ready d next) ∨ (ready w = true ∧ Turn w next w' q) := by
  constructor
  · rintro ⟨hr, hq⟩
    cases hr with
    | refl => exact .inl ⟨rfl, rfl⟩
    | step h rest =>
      cases h with
      | await hready => exact .inr ⟨hready, rest, hq⟩
  · rintro (⟨rfl, rfl⟩ | ⟨hready, hr, hq⟩)
    · exact ⟨.refl, .await⟩
    · exact ⟨.step (.await hready) hr, hq⟩

/-- A turn of `p >>= k` is a turn of `p` that pauses before `p` finishes, or a turn of `p` to
its end followed by a turn of `k` of its value. -/
theorem turn_bind {p : Proc σ α} {k : α → Proc σ β} {q : Proc σ β} :
    Turn w (p.bind k) w' q ↔
      (∃ p', Turn w p w' p' ∧ p'.result? = none ∧ q = p'.bind k) ∨
        ∃ w₁ a, Turn w p w₁ (.pure a) ∧ Turn w₁ (k a) w' q := by
  constructor
  · rintro ⟨hr, hq⟩
    rcases hr.of_bind with ⟨p', hp', rfl⟩ | ⟨w₁, a, hp, hk⟩
    · -- the run stopped inside `p`: at its end, or where `p` waits
      rcases eq_pure_or_result?_eq_none p' with ⟨a, rfl⟩ | hnone
      · exact .inr ⟨w', a, ⟨hp', .pure⟩, .refl, hq⟩
      · exact .inl ⟨p', ⟨hp', (paused_bind hnone).1 hq⟩, hnone, rfl⟩
    · exact .inr ⟨w₁, a, ⟨hp, .pure⟩, hk, hq⟩
  · rintro (⟨p', ⟨hr, hp'⟩, hnone, rfl⟩ | ⟨w₁, a, ⟨hp, -⟩, hk, hq⟩)
    · exact ⟨hr.bind_left, (paused_bind hnone).2 hp'⟩
    · exact ⟨hp.bind_left.trans hk, hq⟩

theorem paused_guard {undo : σ → σ} {cleanup : Proc σ Unit} {body : Proc σ β}
    {next : β → Proc σ α} :
    Paused (.guard undo cleanup body next) ↔ Paused body ∧ body.result? = none := by
  constructor
  · intro h
    cases h with
    | guard hb hrun => exact ⟨hb, hrun⟩
  · rintro ⟨hb, hrun⟩
    exact .guard hb hrun

/-- A turn of a guard is a turn of its body that pauses before the body finishes, or a turn of
the body to its end followed by a turn of what comes after the guard. -/
theorem turn_guard {undo : σ → σ} {cleanup : Proc σ Unit} {body : Proc σ β}
    {next : β → Proc σ α} :
    Turn w (.guard undo cleanup body next) w' q ↔
      (∃ body', Turn w body w' body' ∧ body'.result? = none ∧ q = .guard undo cleanup body' next) ∨
        ∃ w₁ b, Turn w body w₁ (.pure b) ∧ Turn w₁ (next b) w' q := by
  constructor
  · rintro ⟨hr, hq⟩
    rcases hr.of_guard with ⟨body', hb, rfl⟩ | ⟨w₁, b, hb, hk⟩
    · obtain ⟨hpaused, hrun⟩ := paused_guard.1 hq
      exact .inl ⟨body', ⟨hb, hpaused⟩, hrun, rfl⟩
    · exact .inr ⟨w₁, b, ⟨hb, .pure⟩, hk, hq⟩
  · rintro (⟨body', ⟨hr, hb⟩, hrun, rfl⟩ | ⟨w₁, b, ⟨hb, -⟩, hk, hq⟩)
    · exact ⟨hr.guard_body, paused_guard.2 ⟨hb, hrun⟩⟩
    · exact ⟨hb.guard_body.trans (.step .guardDone hk), hq⟩

end Turns

/-! ## Processes that keep to a relation -/

section Confined

variable {α : Type} {R : σ → σ → Prop}

/-- A process each of whose turns, from any world and with anything run between them, and each
of whose drops, relate the world before to the world after by `R`: what the code that runs a
process relies on it to leave alone. The set `S` holds what the process can turn into. -/
def Confined (R : σ → σ → Prop) (p : Proc σ α) : Prop :=
  ∃ S : Proc σ α → Prop, S p ∧
    ∀ q, S q → (∀ w w' q', Turn w q w' q' → R w w' ∧ S q') ∧ ∀ w, R w (q.release w).1

variable {p p' : Proc σ α} {w w' : σ}

theorem Confined.turn (h : Confined R p) (ht : Turn w p w' p') : R w w' ∧ Confined R p' := by
  obtain ⟨S, hp, hS⟩ := h
  obtain ⟨hR, hS'⟩ := (hS p hp).1 w w' p' ht
  exact ⟨hR, S, hS', hS⟩

theorem Confined.release (h : Confined R p) (w : σ) : R w (p.release w).1 := by
  obtain ⟨S, hp, hS⟩ := h
  exact (hS p hp).2 w

theorem confined_pure (hR : ∀ w, R w w) (a : α) : Confined R (.pure a : Proc σ α) := by
  refine ⟨(· = .pure a), rfl, ?_⟩
  rintro q rfl
  refine ⟨fun w w' q' ht => ?_, fun w => hR w⟩
  obtain ⟨rfl, rfl⟩ := turn_pure.1 ht
  exact ⟨hR _, rfl⟩

end Confined

end Proc

end ResilientAgent
