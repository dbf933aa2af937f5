import ResilientAgent.Process.Gate

/-!
# Accounting for a gate's permits

A gate with `permits` permits never loses or makes one: each is free, handed to a waiter that
has not picked it up yet, or held (`Gate.Accounts`). The arrivals it queues, and those it has
handed a permit to, are exactly the ones still waiting for it, each under its own ticket. Every
operation of the gate keeps this count when it is used as the gate's callers use it: an arrival
with a ticket nobody waits under (`Accounts.arrive`), a waiter that picks up the permit it was
handed (`Accounts.pickUp`), a holder that leaves (`Accounts.leave`), and a waiter that gives up
(`Accounts.abandon`).

With one permit the count says that at most one caller holds the gate, and a gate that nobody
holds or waits for is as fresh (`Accounts.eq_fresh`).
-/

namespace ResilientAgent

namespace Gate

/-- The permits of `G` are accounted for by `holding` holders and the tickets `queued` of the
arrivals still waiting. -/
structure Accounts (G : Gate) (permits holding : Nat) (queued : List Nat) : Prop where
  /-- Each permit is free, handed out, or held. -/
  permits : G.free + G.handed.length + holding = permits
  /-- The gate queues, or has handed a permit to, exactly the waiting arrivals. -/
  queue : (G.waiting ++ G.handed).Perm queued
  /-- No two waiting arrivals share a ticket. -/
  distinct : queued.Nodup

namespace Accounts

variable {G : Gate} {permits holding : Nat} {queued : List Nat}

theorem perm {queued' : List Nat} (h : Accounts G permits holding queued)
    (hq : queued.Perm queued') : Accounts G permits holding queued' :=
  ⟨h.permits, h.queue.trans hq, hq.nodup_iff.1 h.distinct⟩

theorem holding_le (h : Accounts G permits holding queued) : holding ≤ permits := by
  have := h.permits
  omega

/-- An arrival takes a free permit, or queues up under its ticket. -/
theorem arrive {t : Nat} (h : Accounts G permits holding queued) (hnew : t ∉ queued) :
    Accounts (G.arrive t).2 permits (if (G.arrive t).1 then holding + 1 else holding)
      (if (G.arrive t).1 then queued else t :: queued) := by
  obtain ⟨hpermits, hqueue, hdistinct⟩ := h
  unfold Gate.arrive
  by_cases hfree : G.free > 0
  · simp only [hfree, if_true]
    exact ⟨by simp only; omega, hqueue, hdistinct⟩
  · simp only [hfree, if_false]
    refine ⟨hpermits, ?_, List.nodup_cons.2 ⟨hnew, hdistinct⟩⟩
    have hmiddle : (G.waiting ++ [t] ++ G.handed).Perm (t :: (G.waiting ++ G.handed)) := by
      simp
    exact hmiddle.trans (hqueue.cons t)

/-- A waiter that was handed a permit picks it up and holds it. -/
theorem pickUp {t : Nat} (h : Accounts G permits holding (t :: queued))
    (hhanded : G.isHanded t = true) : Accounts (G.pickUp t) permits (holding + 1) queued := by
  obtain ⟨hpermits, hqueue, hdistinct⟩ := h
  have ht : t ∈ G.handed := List.contains_iff_mem.1 hhanded
  have hlen : (G.handed.erase t).length = G.handed.length - 1 := List.length_erase_of_mem ht
  have hpos : 0 < G.handed.length := List.length_pos_of_mem ht
  refine ⟨by simp only [Gate.pickUp]; omega, ?_, (List.nodup_cons.1 hdistinct).2⟩
  have hsplit : (G.waiting ++ G.handed).Perm (t :: (G.waiting ++ G.handed.erase t)) :=
    ((List.perm_cons_erase ht).append_left G.waiting).trans List.perm_middle
  exact (hsplit.symm.trans hqueue).cons_inv

/-- A holder leaves: its permit goes to the oldest waiter or becomes free. -/
theorem leave (h : Accounts G permits (holding + 1) queued) : Accounts G.leave permits holding queued := by
  obtain ⟨hpermits, hqueue, hdistinct⟩ := h
  unfold Gate.leave
  split
  · rename_i t rest hwaiting
    rw [hwaiting] at hqueue
    refine ⟨by simp only [List.length_append, List.length_singleton]; omega, ?_, hdistinct⟩
    have hmove : (rest ++ (G.handed ++ [t])).Perm (t :: rest ++ G.handed) := by
      rw [← List.append_assoc]
      exact List.perm_append_singleton t _
    exact hmove.trans hqueue
  · rename_i hwaiting
    rw [hwaiting] at hqueue
    exact ⟨by simp only; omega, by simpa [hwaiting] using hqueue, hdistinct⟩

/-- A waiter that gives up leaves the queue, or passes on the permit it was handed. -/
theorem abandon {t : Nat} (h : Accounts G permits holding (t :: queued)) :
    Accounts (G.abandon t) permits holding queued := by
  unfold Gate.abandon
  split
  · rename_i hhanded
    exact (h.pickUp hhanded).leave
  · rename_i hhanded
    obtain ⟨hpermits, hqueue, hdistinct⟩ := h
    have hnot : t ∉ G.handed := fun ht => hhanded (List.contains_iff_mem.2 ht)
    have hwaiting : t ∈ G.waiting := by
      have hmem : t ∈ G.waiting ++ G.handed := hqueue.mem_iff.2 (List.mem_cons_self ..)
      simpa [hnot] using hmem
    refine ⟨hpermits, ?_, (List.nodup_cons.1 hdistinct).2⟩
    have hsplit : (G.waiting ++ G.handed).Perm (t :: (G.waiting.erase t ++ G.handed)) :=
      (List.perm_cons_erase hwaiting).append_right G.handed
    exact (hsplit.symm.trans hqueue).cons_inv

/-- A gate that nobody holds or waits for is as it was before anyone came. -/
theorem eq_fresh (h : Accounts G permits 0 []) : G = Gate.fresh permits := by
  obtain ⟨hpermits, hqueue, -⟩ := h
  have hempty : G.waiting ++ G.handed = [] := List.Perm.eq_nil hqueue
  obtain ⟨hw, hh⟩ := List.append_eq_nil_iff.1 hempty
  rw [hh] at hpermits
  cases G
  simp_all [Gate.fresh]

theorem fresh (permits : Nat) : Accounts (Gate.fresh permits) permits 0 [] :=
  ⟨rfl, .nil, .nil⟩

end Accounts

end Gate

end ResilientAgent
