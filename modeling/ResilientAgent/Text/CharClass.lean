/-!
# Character classes

A class of characters given by the code points it holds, as a list of inclusive ranges in
increasing order. The tables of Unicode properties that messages and readers depend on are
written this way.
-/

namespace ResilientAgent.Text

/-- A set of characters: the inclusive ranges of code points it holds, in increasing order. -/
abbrev CharClass := List (Nat × Nat)

def CharClass.contains (k : CharClass) (c : Char) : Bool :=
  k.any fun (lo, hi) => lo ≤ c.toNat && c.toNat ≤ hi

theorem CharClass.contains_iff (k : CharClass) (c : Char) :
    k.contains c = true ↔ ∃ r ∈ k, r.1 ≤ c.toNat ∧ c.toNat ≤ r.2 := by
  simp [CharClass.contains]

end ResilientAgent.Text
