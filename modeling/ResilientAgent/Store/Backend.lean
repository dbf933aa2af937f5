import ResilientAgent.Error
import ResilientAgent.Time.Instant

/-!
# Where shared state lives

Shared state lives either in process memory or in a database. The two keep the same records
and differ in two ways a caller can see: a database keeps instants in whole milliseconds, and
a database can be closed, after which every operation on it fails.
-/

namespace ResilientAgent

/-- Where a store keeps its records. -/
inductive Backend where
  | memory
  | database
  deriving DecidableEq, Inhabited

namespace Backend

/-- An instant as the backend keeps it: exact in memory, cut to the millisecond below in a
database. -/
def stamp : Backend → Instant → Instant
  | .memory, t => t
  | .database, t => t.truncateMillis

/-- An outcome field as a settlement leaves it: memory sets the field of the outcome and keeps
the other as it was; a database row is written with both. -/
def settled {α : Type} : Backend → Option α → Option α → Option α
  | .memory, given, kept => given.or kept
  | .database, given, _ => given

@[simp] theorem settled_some {α : Type} (b : Backend) (a : α) (kept : Option α) :
    b.settled (some a) kept = some a := by
  cases b <;> rfl

theorem settled_of_isSome {α : Type} (b : Backend) {given : Option α} (kept : Option α)
    (h : given.isSome) : b.settled given kept = given := by
  obtain ⟨a, rfl⟩ := Option.isSome_iff_exists.mp h
  exact settled_some b a kept

@[simp] theorem settled_none_none {α : Type} (b : Backend) :
    b.settled (none : Option α) none = none := by
  cases b <;> rfl

def closedError : AgentError := .database "attempted to acquire a connection on a closed pool"

end Backend

def Instant.millis (t : Instant) : Int := t.sinceEpoch / 1000000

/-- A duration in whole milliseconds, capped at the largest signed 64-bit count. -/
def Duration.cappedMillis (d : Duration) : Int := Int.ofNat (Nat.min d.millis (Nat.pow 2 63 - 1))

/-- The cutoff a database finds records kept for `d` by: the instant's whole milliseconds less
`d`'s, subtracted in signed 64-bit arithmetic, which wraps around. -/
def Instant.millisBefore (now : Instant) (d : Duration) : Int :=
  (Int64.ofInt now.millis - Int64.ofInt d.cappedMillis).toInt

abbrev Keyed (α : Type) := List (String × α)

namespace Keyed

variable {α : Type}

def get? (t : Keyed α) (key : String) : Option α := (t.find? (·.1 == key)).map (·.2)

/-- The records with `key` holding `value`: replaced where it was, added at the end if new. -/
def put (t : Keyed α) (key : String) (value : α) : Keyed α :=
  if t.any (·.1 == key) then t.map fun e => if e.1 == key then (key, value) else e
  else t ++ [(key, value)]

def erase (t : Keyed α) (key : String) : Keyed α := t.filter (·.1 != key)

theorem mem_put {t : Keyed α} {key : String} {value : α} {e : String × α}
    (h : e ∈ t.put key value) : e ∈ t ∨ e = (key, value) := by
  unfold Keyed.put at h
  split at h
  · obtain ⟨old, hold, rfl⟩ := List.mem_map.1 h
    split
    · exact .inr rfl
    · exact .inl hold
  · simpa using h

theorem get?_put_self (t : Keyed α) (key : String) (value : α) :
    (t.put key value).get? key = some value := by
  unfold Keyed.put Keyed.get?
  split
  · rename_i hany
    induction t with
    | nil => simp at hany
    | cons e t ih =>
      by_cases hk : e.1 = key
      · simp [hk]
      · have hrest : (t.any (·.1 == key)) = true := by simpa [hk] using hany
        simpa [hk] using ih hrest
  · rename_i hany
    have hnone : t.find? (·.1 == key) = none := by
      rw [List.find?_eq_none]
      intro e he hkey
      exact hany (List.any_eq_true.2 ⟨e, he, hkey⟩)
    simp [List.find?_append, hnone]

theorem get?_put_of_ne {t : Keyed α} {key key' : String} {value : α} (hne : key' ≠ key) :
    (t.put key value).get? key' = t.get? key' := by
  unfold put get?
  split
  · rw [List.find?_map]
    have hsame : ((fun e : String × α => e.1 == key') ∘ fun e =>
        if e.1 == key then (key, value) else e) = fun e => e.1 == key' := by
      funext e
      by_cases he : e.1 = key
      · simp [he]
      · simp [he]
    rw [hsame]
    cases hfind : t.find? (·.1 == key') with
    | none => rfl
    | some e =>
      have he : e.1 = key' := by simpa using List.find?_some hfind
      simp [he, hne]
  · have hlast : [(key, value)].find? (·.1 == key') = none := by simp [Ne.symm hne]
    simp [List.find?_append, hlast]

theorem get?_erase_self (t : Keyed α) (key : String) : (t.erase key).get? key = none := by
  unfold erase get?
  rw [Option.map_eq_none_iff, List.find?_eq_none]
  intro e he hkey
  simp only [List.mem_filter, bne_iff_ne, ne_eq] at he
  exact he.2 (beq_iff_eq.1 hkey)

theorem get?_erase_of_ne {t : Keyed α} {key key' : String} (hne : key' ≠ key) :
    (t.erase key).get? key' = t.get? key' := by
  unfold erase get?
  rw [List.find?_filter]
  congr 2
  funext e
  by_cases he : e.1 = key'
  · simp [he, hne]
  · simp [he]

theorem mem_of_get? {t : Keyed α} {key : String} {value : α} (h : t.get? key = some value) :
    (key, value) ∈ t := by
  unfold get? at h
  obtain ⟨e, hfind, rfl⟩ := Option.map_eq_some_iff.1 h
  have hkey : e.1 = key := by simpa using List.find?_some hfind
  rw [← hkey]
  exact List.mem_of_find?_eq_some hfind

end Keyed

end ResilientAgent
