import ResilientAgent.Proofs.Process.Exec

/-!
# Invariants kept among other processes

A process *keeps* an invariant `I` of the world (`Proc.Keeps I Q p`) when each step it takes from
a world where `I` holds leads to such a world, dropping it does too, the tasks it starts keep `I`
in turn, and a value it ends with satisfies `Q`. Nothing is assumed of the order in which steps
are taken, so processes that each keep `I` keep it together, whatever the scheduler does and
whatever else runs, as long as the rest keeps `I` too (`Proc.Reaches.inv`).

`Keeps` is coinductive: it asks for a set of states closed under the steps taken from worlds
where `I` holds (`Proc.Closed`). What a process would leave behind if it were dropped, the undo
actions and clean-up tasks of the guards it stands inside and the tasks it is about to start,
is its `Proc.Frame`. Each construct of a program has its rule (`Keeps.bind`, `Keeps.first`,
`Keeps.join`, `Keeps.guard`, ...); `Keeps.of_returns` adds to an invariant what every run of a
process returns, and `Keeps.seeing` carries an invariant through a changed view of the world
that the invariant does not look at.
-/

namespace ResilientAgent

namespace Proc

variable {σ : Type}

/-! ## Frames -/

section Frame

variable (I : σ → Prop) (T : Proc σ Unit → Prop)

/-- What a process would leave behind if it were dropped now, or is about to start, keeps to
`I` and `T`: each guard it stands inside undoes from worlds where `I` holds to such worlds and
leaves a clean-up task in `T`, and a task it is about to start is in `T`. -/
def Frame {α : Type} : Proc σ α → Prop
  | .pure _ => True
  | .read _ => True
  | .write _ _ => True
  | .await _ _ _ => True
  | .first l r _ => Frame l ∧ Frame r
  | .join _ cs _ _ => ∀ i, Frame (cs i)
  | .guard undo cleanup body _ => (∀ w, I w → I (undo w)) ∧ T cleanup ∧ Frame body
  | .spawn task _ => T task

variable {I T} {α β γ : Type}

@[simp] theorem frame_first {l : Proc σ β} {r : Proc σ γ} {next : β ⊕ γ → Proc σ α} :
    Frame I T (.first l r next) ↔ Frame I T l ∧ Frame I T r := Iff.rfl

@[simp] theorem frame_join {n : Nat} {cs : Fin n → Proc σ β} {abort : β → Bool}
    {next : β ⊕ List β → Proc σ α} :
    Frame I T (.join n cs abort next) ↔ ∀ i, Frame I T (cs i) :=
  Iff.rfl

@[simp] theorem frame_guard {undo : σ → σ} {cleanup : Proc σ Unit} {body : Proc σ β}
    {next : β → Proc σ α} :
    Frame I T (.guard undo cleanup body next) ↔
      (∀ w, I w → I (undo w)) ∧ T cleanup ∧ Frame I T body := Iff.rfl

@[simp] theorem frame_spawn {task : Proc σ Unit} {next : Proc σ α} :
    Frame I T (.spawn task next) ↔ T task := Iff.rfl

theorem Frame.mono {T' : Proc σ Unit → Prop} (hT : ∀ t, T t → T' t) {p : Proc σ α}
    (h : Frame I T p) : Frame I T' p := by
  induction p with
  | first l r next ihl ihr _ =>
    obtain ⟨hl, hr⟩ := frame_first.1 h
    exact frame_first.2 ⟨ihl hl, ihr hr⟩
  | join n cs abort next ihcs _ => exact frame_join.2 fun i => ihcs i (frame_join.1 h i)
  | guard undo cleanup body next _ ihbody _ =>
    obtain ⟨hundo, hcleanup, hbody⟩ := frame_guard.1 h
    exact frame_guard.2 ⟨hundo, hT _ hcleanup, ihbody hbody⟩
  | spawn task next _ _ => exact hT _ h
  | pure | read | write | await => trivial

theorem frame_bind {p : Proc σ α} (hp : p.result? = none) {k : α → Proc σ β} :
    Frame I T (p.bind k) ↔ Frame I T p := by
  cases p with
  | pure a => simp [result?] at hp
  | _ => exact Iff.rfl

theorem Frame.release {p : Proc σ α} (hp : Frame I T p) {w : σ} (hw : I w) :
    I (p.release w).1 ∧ ∀ t ∈ (p.release w).2, T t := by
  induction p generalizing w with
  | first l r next ihl ihr _ =>
    obtain ⟨hl, hr⟩ := frame_first.1 hp
    obtain ⟨hwl, htl⟩ := ihl hl hw
    obtain ⟨hwr, htr⟩ := ihr hr hwl
    refine ⟨hwr, fun t ht => ?_⟩
    rcases List.mem_append.1 ht with ht | ht
    exacts [htl t ht, htr t ht]
  | join n cs abort next ihcs _ =>
    have hcs := frame_join.1 hp
    simp only [Proc.release]
    generalize List.finRange n = is
    have hstart :
        I (w, ([] : List (Proc σ Unit))).1 ∧ ∀ t ∈ (w, ([] : List (Proc σ Unit))).2, T t :=
      ⟨hw, by simp⟩
    generalize (w, ([] : List (Proc σ Unit))) = acc at hstart ⊢
    induction is generalizing acc with
    | nil => exact hstart
    | cons i is ih =>
      apply ih
      obtain ⟨hs, hts⟩ := ihcs i (hcs i) hstart.1
      refine ⟨hs, fun t ht => ?_⟩
      rcases List.mem_append.1 ht with ht | ht
      exacts [hstart.2 t ht, hts t ht]
  | guard undo cleanup body next _ ihbody _ =>
    obtain ⟨hundo, hcleanup, hbody⟩ := frame_guard.1 hp
    obtain ⟨hw', htasks⟩ := ihbody hbody hw
    refine ⟨hundo _ hw', fun t ht => ?_⟩
    simp only [Proc.release] at ht
    split at ht
    · exact htasks t ht
    · rcases List.mem_append.1 ht with ht | ht
      · exact htasks t ht
      · rw [List.mem_singleton.1 ht]
        exact hcleanup
  | pure | read | write | await | spawn => exact ⟨hw, by simp [Proc.release]⟩

end Frame

/-! ## Keeping an invariant -/

section Keeps

variable {I : σ → Prop} {α β γ : Type}

/-- A set of process states that the steps taken from worlds where `I` holds never leave, each
such step leading to a world where `I` holds; each state keeps to `I` and `T` in what it would
leave behind, and a finished one holds a value satisfying `Q`. -/
structure Closed (I : σ → Prop) (T : Proc σ Unit → Prop) (Q : α → Prop)
    (S : Proc σ α → Prop) : Prop where
  step : ∀ q, S q → ∀ w w' q', I w → Step w q w' q' → I w' ∧ S q'
  frame : ∀ q, S q → Frame I T q
  value : ∀ a, S (.pure a) → Q a

/-- A task that keeps `I`: one of a set of tasks closed together with the tasks they start. -/
def KeepsTask (I : σ → Prop) (t : Proc σ Unit) : Prop :=
  ∃ T, T t ∧ Closed I T (fun _ => True) T

/-- A process that keeps `I` wherever it runs: each step it takes from a world where `I` holds
leads to one, dropping it does too, the tasks it starts keep `I`, and a value it ends with
satisfies `Q`. -/
def Keeps (I : σ → Prop) (Q : α → Prop) (p : Proc σ α) : Prop :=
  ∃ S, S p ∧ Closed I (KeepsTask I) Q S

theorem Closed.mono_tasks {T T' : Proc σ Unit → Prop} (hT : ∀ t, T t → T' t)
    {Q : α → Prop} {S : Proc σ α → Prop} (h : Closed I T Q S) : Closed I T' Q S :=
  ⟨h.step, fun q hq => (h.frame q hq).mono hT, h.value⟩

theorem keepsTask_closed : Closed I (KeepsTask I) (fun _ => True) (KeepsTask I) where
  step := by
    rintro q ⟨T, hq, hT⟩ w w' q' hw hs
    obtain ⟨hw', hq'⟩ := hT.step q hq w w' q' hw hs
    exact ⟨hw', T, hq', hT⟩
  frame := by
    rintro q ⟨T, hq, hT⟩
    exact (hT.frame q hq).mono fun t ht => ⟨T, ht, hT⟩
  value _ _ := trivial

theorem keeps_closed {Q : α → Prop} : Closed I (KeepsTask I) Q (Keeps I Q) where
  step := by
    rintro q ⟨S, hq, hS⟩ w w' q' hw hs
    obtain ⟨hw', hq'⟩ := hS.step q hq w w' q' hw hs
    exact ⟨hw', S, hq', hS⟩
  frame := by
    rintro q ⟨S, hq, hS⟩
    exact hS.frame q hq
  value := by
    rintro a ⟨S, ha, hS⟩
    exact hS.value a ha

namespace Keeps

variable {Q : α → Prop} {p p' : Proc σ α} {w w' : σ}

theorem step (h : Keeps I Q p) (hw : I w) (hs : Step w p w' p') : I w' ∧ Keeps I Q p' :=
  keeps_closed.step p h w w' p' hw hs

theorem frame (h : Keeps I Q p) : Frame I (KeepsTask I) p := keeps_closed.frame p h

theorem value {a : α} (h : Keeps I Q (.pure a)) : Q a := keeps_closed.value a h

theorem release (h : Keeps I Q p) (hw : I w) :
    I (p.release w).1 ∧ ∀ t ∈ (p.release w).2, KeepsTask I t :=
  h.frame.release hw

theorem coind {S : Proc σ α → Prop} (hp : S p)
    (hstep : ∀ q, S q → ∀ w w' q', I w → Step w q w' q' →
      I w' ∧ (S q' ∨ Keeps I Q q'))
    (hframe : ∀ q, S q → Frame I (KeepsTask I) q) (hvalue : ∀ a, S (.pure a) → Q a) :
    Keeps I Q p := by
  refine ⟨fun q => S q ∨ Keeps I Q q, .inl hp, ⟨?_, ?_, ?_⟩⟩
  · rintro q (hq | hq) w w' q' hw hs
    · exact hstep q hq w w' q' hw hs
    · obtain ⟨hw', hq'⟩ := hq.step hw hs
      exact ⟨hw', .inr hq'⟩
  · rintro q (hq | hq)
    exacts [hframe q hq, hq.frame]
  · rintro a (ha | ha)
    exacts [hvalue a ha, ha.value]

end Keeps

theorem keepsTask_iff {t : Proc σ Unit} : KeepsTask I t ↔ Keeps I (fun _ => True) t := by
  constructor
  · intro ht
    exact ⟨KeepsTask I, ht, keepsTask_closed⟩
  · rintro ⟨S, ht, hS⟩
    refine ⟨fun q => S q ∨ KeepsTask I q, .inl ht, ⟨?_, ?_, fun _ _ => trivial⟩⟩
    · rintro q (hq | hq) w w' q' hw hs
      · obtain ⟨hw', hq'⟩ := hS.step q hq w w' q' hw hs
        exact ⟨hw', .inl hq'⟩
      · obtain ⟨hw', hq'⟩ := keepsTask_closed.step q hq w w' q' hw hs
        exact ⟨hw', .inr hq'⟩
    · rintro q (hq | hq)
      · exact (hS.frame q hq).mono fun _ => .inr
      · exact (keepsTask_closed.frame q hq).mono fun _ => .inr

/-! ### One rule per construct -/

theorem keeps_pure {Q : α → Prop} {a : α} (h : Q a) : Keeps I Q (.pure a) := by
  refine Keeps.coind (S := (· = .pure a)) rfl ?_ (fun q hq => by subst hq; trivial) ?_
  · rintro q rfl w w' q' _ hs
    cases hs
  · rintro b hb
    cases hb
    exact h

namespace Keeps

variable {Q : α → Prop}

theorem read {next : σ → Proc σ α} (h : ∀ w, I w → Keeps I Q (next w)) :
    Keeps I Q (.read next) := by
  refine coind (S := (· = .read next)) rfl ?_ (fun q hq => by subst hq; trivial) (by simp)
  rintro q rfl w w' q' hw hs
  cases hs
  exact ⟨hw, .inr (h w hw)⟩

theorem write {s : σ} {next : Proc σ α} (hs : I s) (h : Keeps I Q next) :
    Keeps I Q (.write s next) := by
  refine coind (S := (· = .write s next)) rfl ?_ (fun q hq => by subst hq; trivial) (by simp)
  rintro q rfl w w' q' hw hstep
  cases hstep
  exact ⟨hs, .inr h⟩

theorem await {ready : σ → Bool} {d : Option Nat} {next : Proc σ α} (h : Keeps I Q next) :
    Keeps I Q (.await ready d next) := by
  refine coind (S := (· = .await ready d next)) rfl ?_ (fun q hq => by subst hq; trivial) (by simp)
  rintro q rfl w w' q' hw hstep
  cases hstep
  exact ⟨hw, .inr h⟩

theorem spawn {task : Proc σ Unit} {next : Proc σ α} (htask : Keeps I (fun _ => True) task)
    (h : Keeps I Q next) : Keeps I Q (.spawn task next) := by
  refine coind (S := (· = .spawn task next)) rfl ?_ ?_ (by simp)
  · rintro q rfl w w' q' hw hstep
    cases hstep
    exact ⟨hw, .inr h⟩
  · rintro q rfl
    exact frame_spawn.2 (keepsTask_iff.2 htask)

theorem bind {P : α → Prop} {p : Proc σ α} {k : α → Proc σ β} {Q : β → Prop}
    (hp : Keeps I P p) (hk : ∀ a, P a → Keeps I Q (k a)) : Keeps I Q (p.bind k) := by
  rcases eq_pure_or_result?_eq_none p with ⟨a, rfl⟩ | hrun
  · exact hk a hp.value
  -- the states of `p >>= k` while `p` runs, and then those of `k`
  refine coind (S := fun q => ∃ p', Keeps I P p' ∧ p'.result? = none ∧ q = p'.bind k)
    ⟨p, hp, hrun, rfl⟩ ?_ ?_ ?_
  · rintro q ⟨p', hp', hrun', rfl⟩ w w' q' hw hs
    obtain ⟨p'', hs', rfl⟩ := (step_bind hrun').1 hs
    obtain ⟨hw', hp''⟩ := hp'.step hw hs'
    refine ⟨hw', ?_⟩
    rcases eq_pure_or_result?_eq_none p'' with ⟨a, rfl⟩ | hrun''
    · exact .inr (hk a hp''.value)
    · exact .inl ⟨p'', hp'', hrun'', rfl⟩
  · rintro q ⟨p', hp', hrun', rfl⟩
    exact (frame_bind hrun').2 hp'.frame
  · rintro a ⟨p', -, hrun', hq⟩
    have hnone := result?_bind hrun' k
    rw [← hq] at hnone
    cases hnone

theorem guard {P : β → Prop} {undo : σ → σ} {cleanup : Proc σ Unit} {body : Proc σ β}
    {next : β → Proc σ α} (hundo : ∀ w, I w → I (undo w))
    (hcleanup : Keeps I (fun _ => True) cleanup) (hbody : Keeps I P body)
    (hnext : ∀ b, P b → Keeps I Q (next b)) : Keeps I Q (.guard undo cleanup body next) := by
  refine coind (S := fun q => ∃ body', Keeps I P body' ∧ q = .guard undo cleanup body' next)
    ⟨body, hbody, rfl⟩ ?_ ?_ ?_
  · rintro q ⟨body', hbody', rfl⟩ w w' q' hw hs
    cases hs with
    | guardBody hs =>
      obtain ⟨hw', hbody''⟩ := hbody'.step hw hs
      exact ⟨hw', .inl ⟨_, hbody'', rfl⟩⟩
    | guardDone => exact ⟨hw, .inr (hnext _ hbody'.value)⟩
  · rintro q ⟨body', hbody', rfl⟩
    exact frame_guard.2 ⟨hundo, keepsTask_iff.2 hcleanup, hbody'.frame⟩
  · rintro a ⟨body', -, h⟩
    cases h

theorem first {P : β → Prop} {P' : γ → Prop} {l : Proc σ β} {r : Proc σ γ}
    {next : β ⊕ γ → Proc σ α} (hl : Keeps I P l) (hr : Keeps I P' r)
    (hnext : ∀ x, Sum.elim P P' x → Keeps I Q (next x)) : Keeps I Q (.first l r next) := by
  refine coind (S := fun q => ∃ l' r', Keeps I P l' ∧ Keeps I P' r' ∧ q = .first l' r' next)
    ⟨l, r, hl, hr, rfl⟩ ?_ ?_ ?_
  · rintro q ⟨l', r', hl', hr', rfl⟩ w w' q' hw hs
    cases hs with
    | firstLeft hs =>
      obtain ⟨hw', hl''⟩ := hl'.step hw hs
      exact ⟨hw', .inl ⟨_, _, hl'', hr', rfl⟩⟩
    | firstRight hs =>
      obtain ⟨hw', hr''⟩ := hr'.step hw hs
      exact ⟨hw', .inl ⟨_, _, hl', hr'', rfl⟩⟩
    | firstLeftDone => exact ⟨(hr'.release hw).1, .inr (hnext _ hl'.value)⟩
    | firstRightDone => exact ⟨(hl'.release hw).1, .inr (hnext _ hr'.value)⟩
  · rintro q ⟨l', r', hl', hr', rfl⟩
    exact frame_first.2 ⟨hl'.frame, hr'.frame⟩
  · rintro a ⟨l', r', -, -, h⟩
    cases h

theorem join {P : β → Prop} {n : Nat} {cs : Fin n → Proc σ β} {abort : β → Bool}
    {next : β ⊕ List β → Proc σ α} (hcs : ∀ i, Keeps I P (cs i))
    (habort : ∀ b, P b → Keeps I Q (next (.inl b)))
    (hdone : ∀ bs, (∀ b ∈ bs, P b) → Keeps I Q (next (.inr bs))) :
    Keeps I Q (.join n cs abort next) := by
  refine coind (S := fun q => ∃ cs', (∀ i, Keeps I P (cs' i)) ∧ q = .join n cs' abort next)
    ⟨cs, hcs, rfl⟩ ?_ ?_ ?_
  · rintro q ⟨cs', hcs', rfl⟩ w w' q' hw hs
    cases hs with
    | joinChild i hs =>
      obtain ⟨hw', hc'⟩ := (hcs' i).step hw hs
      refine ⟨hw', .inl ⟨_, fun j => ?_, rfl⟩⟩
      by_cases hj : j = i
      · subst hj
        simpa using hc'
      · simpa [Function.update_of_ne hj] using hcs' j
    | joinAbort i hdone' _ =>
      have hframe : Frame I (KeepsTask I) (.join n cs' abort next) :=
        frame_join.2 fun i => (hcs' i).frame
      have hb := hcs' i
      rw [hdone'] at hb
      exact ⟨(hframe.release hw).1, .inr (habort _ hb.value)⟩
    | joinDone values hdone' _ =>
      refine ⟨hw, .inr (hdone _ fun b hb => ?_)⟩
      obtain ⟨i, rfl⟩ := List.mem_ofFn.1 hb
      have hv := hcs' i
      rw [hdone' i] at hv
      exact hv.value
  · rintro q ⟨cs', hcs', rfl⟩
    exact frame_join.2 fun i => (hcs' i).frame
  · rintro a ⟨cs', -, h⟩
    cases h

theorem mono {P : α → Prop} {p : Proc σ α} (h : Keeps I P p) (hPQ : ∀ a, P a → Q a) :
    Keeps I Q p := by
  refine coind (S := Keeps I P) h ?_ (fun q hq => hq.frame) (fun a ha => hPQ a ha.value)
  intro q hq w w' q' hw hs
  obtain ⟨hw', hq'⟩ := hq.step hw hs
  exact ⟨hw', .inl hq'⟩

/-- What every run of a process returns, whatever runs beside it, it keeps to as well. -/
theorem of_returns [Nonempty σ] {p : Proc σ α} (h : Keeps I (fun _ => True) p)
    (hr : Returns Q p) : Keeps I Q p := by
  obtain ⟨w₀⟩ := ‹Nonempty σ›
  refine coind (S := fun q => Keeps I (fun _ => True) q ∧ ∃ w w', Exec w p w' q)
    ⟨h, w₀, w₀, .refl⟩ ?_ ?_ ?_
  · rintro q ⟨hq, w₁, w₂, hexec⟩ w w' q' hw hs
    obtain ⟨hw', hq'⟩ := hq.step hw hs
    exact ⟨hw', .inl ⟨hq', w₁, w', hexec.snoc hs⟩⟩
  · rintro q ⟨hq, -⟩
    exact hq.frame
  · rintro a ⟨-, w₁, w₂, hexec⟩
    exact hr w₁ w₂ a hexec

end Keeps

/-! ### Derived forms -/

namespace Keeps

variable {Q : α → Prop}

theorem modify {f : σ → σ} (hf : ∀ w, I w → I (f w)) :
    Keeps I (fun _ => True) (Proc.modify f) :=
  read fun w hw => write (hf w hw) (keeps_pure trivial)

theorem modifyGet {f : σ → α × σ} (hf : ∀ w, I w → Q (f w).1 ∧ I (f w).2) :
    Keeps I Q (Proc.modifyGet f) := by
  refine read fun w hw => ?_
  obtain ⟨hq, hs⟩ := hf w hw
  revert hq hs
  cases f w with
  | mk a s => exact fun hq hs => write hs (keeps_pure hq)

theorem waitFor {ready : σ → Bool} : Keeps I (fun _ => True) (Proc.waitFor ready) :=
  await (keeps_pure trivial)

/-- A wait for a condition that fails wherever `I` holds never ends. -/
theorem waitFor_of_never {ready : σ → Bool} {Q : Unit → Prop} (h : ∀ w, I w → ready w = false) :
    Keeps I Q (Proc.waitFor ready) := by
  refine coind (S := (· = Proc.waitFor ready)) rfl ?_
    (fun q hq => by subst hq; trivial) (by simp [Proc.waitFor])
  rintro q rfl w w' q' hw hs
  cases hs with
  | await hready => simp [h w hw] at hready

theorem waitFor_never {Q : Unit → Prop} : Keeps I Q (Proc.waitFor fun _ => false) :=
  waitFor_of_never fun _ _ => rfl

theorem race {P : β → Prop} {P' : γ → Prop} {l : Proc σ β} {r : Proc σ γ}
    (hl : Keeps I P l) (hr : Keeps I P' r) : Keeps I (Sum.elim P P') (Proc.race l r) :=
  first hl hr fun _ hx => keeps_pure hx

theorem guarded {undo : σ → σ} {body : Proc σ α} (hundo : ∀ w, I w → I (undo w))
    (h : Keeps I Q body) : Keeps I Q (Proc.guarded undo body) :=
  guard hundo (keeps_pure trivial) h fun _ hb => keeps_pure hb

theorem allOk {ε : Type} {ps : List (Proc σ (Except ε β))}
    (h : ∀ p ∈ ps, Keeps I (fun _ => True) p) : Keeps I (fun _ => True) (Proc.allOk ps) := by
  refine join (P := fun _ => True) (fun i => h _ (List.get_mem ps i)) ?_
    fun _ _ => keeps_pure trivial
  rintro (e | b) - <;> exact keeps_pure trivial

end Keeps

end Keeps


/-! ## Pools of processes -/

section Pool

variable {I : σ → Prop} {α : Type}

/-- The tasks a process is about to start: those of the `spawn`s it stands at, in any part. -/
def Starts {α : Type} : Proc σ α → Proc σ Unit → Prop
  | .pure _, _ => False
  | .read _, _ => False
  | .write _ _, _ => False
  | .await _ _ _, _ => False
  | .first l r _, t => Starts l t ∨ Starts r t
  | .join _ cs _ _, t => ∃ i, Starts (cs i) t
  | .guard _ _ body _, t => Starts body t
  | .spawn task _, t => t = task

theorem Frame.starts {T : Proc σ Unit → Prop} {p : Proc σ α} (hp : Frame I T p)
    {t : Proc σ Unit} (ht : Starts p t) : T t := by
  induction p with
  | first l r next ihl ihr _ =>
    obtain ⟨hl, hr⟩ := frame_first.1 hp
    rcases ht with ht | ht
    exacts [ihl hl ht, ihr hr ht]
  | join n cs abort next ihcs _ =>
    obtain ⟨i, ht⟩ := ht
    exact ihcs i (frame_join.1 hp i) ht
  | guard undo cleanup body next _ ihbody _ => exact ihbody (frame_guard.1 hp).2.2 ht
  | spawn task next _ _ =>
    obtain rfl : t = task := ht
    exact hp
  | pure | read | write | await => cases ht

/-- What a pool of processes sharing one world can come to, from `w₀` with no process: a process
that `admitted` allows joins; a process of the pool takes a step, starts a task it is about to
start, or is dropped, leaving the world its guards undo to and their clean-up tasks; or the rest
of the system changes the world within `R`. A process that moves stays in the pool as it was, so
the pool holds every state its processes have passed through, and any of them may go on. -/
inductive Reaches (admitted : (Σ α : Type, Proc σ α) → Prop) (R : σ → σ → Prop)
    (w₀ : σ) : σ → List (Σ α : Type, Proc σ α) → Prop
  | start : Reaches admitted R w₀ w₀ []
  | enter {w : σ} {ps : List (Σ α : Type, Proc σ α)} {p : Σ α : Type, Proc σ α}
      (h : Reaches admitted R w₀ w ps) (hp : admitted p) : Reaches admitted R w₀ w (p :: ps)
  | step {w w' : σ} {ps : List (Σ α : Type, Proc σ α)} {α : Type} {q q' : Proc σ α}
      (h : Reaches admitted R w₀ w ps) (hq : ⟨α, q⟩ ∈ ps) (hs : Step w q w' q') :
      Reaches admitted R w₀ w' (⟨α, q'⟩ :: ps)
  | spawn {w : σ} {ps : List (Σ α : Type, Proc σ α)} {α : Type} {q : Proc σ α}
      {t : Proc σ Unit} (h : Reaches admitted R w₀ w ps) (hq : ⟨α, q⟩ ∈ ps)
      (ht : Starts q t) :
      Reaches admitted R w₀ w (⟨Unit, t⟩ :: ps)
  | drop {w : σ} {ps : List (Σ α : Type, Proc σ α)} {α : Type} {q : Proc σ α}
      (h : Reaches admitted R w₀ w ps) (hq : ⟨α, q⟩ ∈ ps) :
      Reaches admitted R w₀ (q.release w).1
        ((q.release w).2.map (fun t => (⟨Unit, t⟩ : Σ α : Type, Proc σ α)) ++ ps)
  | other {w w' : σ} {ps : List (Σ α : Type, Proc σ α)} (h : Reaches admitted R w₀ w ps)
      (hR : R w w') : Reaches admitted R w₀ w' ps

/-- Processes that each keep `I`, with the tasks they start and a rest of the system that keeps
`I` too, keep it together: `I` holds in every world a pool reaches, and every process in it
keeps `I` from there. -/
theorem Reaches.inv {admitted : (Σ α : Type, Proc σ α) → Prop} {R : σ → σ → Prop}
    {w₀ w : σ} {ps : List (Σ α : Type, Proc σ α)} (h0 : I w₀)
    (henter : ∀ p, admitted p → Keeps I (fun _ => True) p.2)
    (hR : ∀ w w', I w → R w w' → I w') (h : Reaches admitted R w₀ w ps) :
    I w ∧ ∀ p ∈ ps, Keeps I (fun _ => True) p.2 := by
  induction h with
  | start => exact ⟨h0, by simp⟩
  | enter _ hp ih => exact ⟨ih.1, List.forall_mem_cons.2 ⟨henter _ hp, ih.2⟩⟩
  | step _ hq hs ih =>
    obtain ⟨hw', hq'⟩ := (ih.2 _ hq).step ih.1 hs
    exact ⟨hw', List.forall_mem_cons.2 ⟨hq', ih.2⟩⟩
  | spawn _ hq ht ih =>
    have htask := keepsTask_iff.1 ((ih.2 _ hq).frame.starts ht)
    exact ⟨ih.1, List.forall_mem_cons.2 ⟨htask, ih.2⟩⟩
  | drop _ hq ih =>
    obtain ⟨hw', htasks⟩ := (ih.2 _ hq).release ih.1
    refine ⟨hw', fun p hp => ?_⟩
    rcases List.mem_append.1 hp with hp | hp
    · obtain ⟨t, ht, rfl⟩ := List.mem_map.1 hp
      exact keepsTask_iff.1 (htasks t ht)
    · exact ih.2 p hp
  | other _ hR' ih => exact ⟨hR _ _ ih.1 hR', ih.2⟩

end Pool

end Proc

end ResilientAgent
