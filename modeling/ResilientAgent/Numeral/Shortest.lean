import ResilientAgent.Numeral.Binary

/-!
# Shortest decimal that reads back

A finite binary number `m · 2^q` is the image, under round-to-nearest, of every real in an
interval around it: half a place to either side, only a quarter of a place below when the
number is a power of two whose lower neighbour is finer. The ends belong to it exactly when
`m` is even, since a tie is read to the even significand.

`shortest` looks at decimal grids of one, two, … significant digits. On each grid only the
two points around the number can be nearest, so if any point of the grid lies in the interval
one of those two does; the first grid with a hit gives the digits, the nearer of two hits, a
tie to the even one. All comparisons are on naturals.
-/

namespace ResilientAgent.Numeral

/-- A decimal `significand · 10^exponent`. -/
structure Scientific where
  significand : Nat
  exponent : Int
  deriving Repr, DecidableEq

def compareDecimal (a : Nat) (e : Int) (c : Nat) (k : Int) : Ordering :=
  compare (a * Nat.pow 2 e.toNat * Nat.pow 10 (-k).toNat) (c * Nat.pow 10 k.toNat * Nat.pow 2 (-e).toNat)

/-- `⌊log₁₀ (m · 2^q)⌋` for positive `m`. -/
def floorLog10 (m : Nat) (q : Int) : Int :=
  if q ≥ 0 then
    ((Nat.toDigits 10 (m * Nat.pow 2 q.toNat)).length : Int) - 1
  else
    let whole := m / Nat.pow 2 q.natAbs
    if whole > 0 then ((Nat.toDigits 10 whole).length : Int) - 1
    else
      -- the least `j` with `m · 10^j ≥ 2^(-q)`; `j` stays below 400 for every format here
      let j := ((List.range 400).find? fun j => m * Nat.pow 10 (j + 1) ≥ Nat.pow 2 q.natAbs).getD 399
      Int.negSucc j

def Scientific.trim (s : Scientific) : Scientific :=
  let zeros := ((List.range 400).find? fun j => s.significand % Nat.pow 10 (j + 1) != 0).getD 0
  if s.significand == 0 then ⟨0, 0⟩ else ⟨s.significand / Nat.pow 10 zeros, s.exponent + zeros⟩

/-- The interval of reals that round to `m · 2^q`, as numerators over `2^(q-2)`:
`(low, high, ends included)`. -/
def roundingInterval (f : Format) (m : Nat) (q : Int) : Nat × Nat × Bool :=
  let powerOfTwoGap := m == Nat.pow 2 f.fractionBits && q > f.minExponent
  let low := if powerOfTwoGap then 4 * m - 1 else 4 * m - 2
  (low, 4 * m + 2, m % 2 == 0)

/-- Whether `c · 10^k` lies in the rounding interval of `m · 2^q`. -/
def inInterval (f : Format) (m : Nat) (q : Int) (c : Nat) (k : Int) : Bool :=
  let (low, high, closed) := roundingInterval f m q
  let aboveLow := match compareDecimal low (q - 2) c k with
    | .lt => true
    | .eq => closed
    | .gt => false
  let belowHigh := match compareDecimal high (q - 2) c k with
    | .gt => true
    | .eq => closed
    | .lt => false
  aboveLow && belowHigh

/-- The grid point of `10^k` nearest to `m · 2^q` that lies in its rounding interval, if
either of the two around it does; of two equally near, the even one. -/
def gridHit (f : Format) (m : Nat) (q : Int) (k : Int) : Option Nat :=
  let num := m * Nat.pow 2 q.toNat * Nat.pow 10 (-k).toNat
  let den := Nat.pow 2 (-q).toNat * Nat.pow 10 k.toNat
  let below := num / den
  let above := below + 1
  let belowIn := inInterval f m q below k
  let aboveIn := num % den != 0 && inInterval f m q above k
  match belowIn, aboveIn with
  | true, false => some below
  | false, true => some above
  | false, false => none
  | true, true =>
    let twice := 2 * num
    let middle := (2 * below + 1) * den
    if twice < middle then some below
    else if twice > middle then some above
    else if below % 2 == 0 then some below else some above

/-- The shortest decimal that rounds to the positive `m · 2^q` in format `f`, the nearest
such one when several have that length. -/
def shortest (f : Format) (m : Nat) (q : Int) : Scientific :=
  let top := floorLog10 m q
  let hit := (List.range 40).findSome? fun (n : Nat) =>
    let k := top - (n : Int)
    (gridHit f m q k).map fun c => Scientific.mk c k
  (hit.getD ⟨m, 0⟩).trim

end ResilientAgent.Numeral
