/-!
# Binary interchange formats

A binary floating-point format stores a sign, a biased exponent and a fraction. This module
reads a bit pattern as the number it denotes, `(-1)^s · m · 2^e`, and writes the pattern
nearest to an exact ratio of naturals, a tie going to the even significand. Both are plain
arithmetic on naturals, so the rounding is exact whatever the size of the ratio.
-/

namespace ResilientAgent.Numeral

/-- A binary format: the width of the stored fraction and of the exponent field. -/
structure Format where
  fractionBits : Nat
  exponentBits : Nat
  deriving Repr, DecidableEq

def Format.binary64 : Format := ⟨52, 11⟩

def Format.binary32 : Format := ⟨23, 8⟩

def Format.bias (f : Format) : Nat := Nat.pow 2 (f.exponentBits - 1) - 1

def Format.topField (f : Format) : Nat := Nat.pow 2 f.exponentBits - 1

def Format.precision (f : Format) : Nat := f.fractionBits + 1

def Format.minExponent (f : Format) : Int := 1 - (f.bias : Int) - f.fractionBits

/-- What a bit pattern denotes. -/
inductive Denoted where
  /-- `(-1)^negative · mantissa · 2^exponent`; a zero mantissa is a signed zero. -/
  | finite (negative : Bool) (mantissa : Nat) (exponent : Int)
  | infinite (negative : Bool)
  | nan
  deriving Repr, DecidableEq

/-- The least natural number at or above a denoted value; zero for a value at most zero, an
infinity or NaN. -/
def Denoted.ceilNat : Denoted → Nat
  | .finite false m e =>
    if 0 ≤ e then m * Nat.pow 2 e.toNat
    else (m + Nat.pow 2 e.natAbs - 1) / Nat.pow 2 e.natAbs
  | _ => 0

/-- The number a bit pattern of the format denotes. -/
def Format.decode (f : Format) (bits : Nat) : Denoted :=
  let fraction := bits % Nat.pow 2 f.fractionBits
  let field := (bits / Nat.pow 2 f.fractionBits) % Nat.pow 2 f.exponentBits
  let negative := (bits / Nat.pow 2 (f.fractionBits + f.exponentBits)) % 2 == 1
  if field == f.topField then
    if fraction == 0 then .infinite negative else .nan
  else if field == 0 then
    .finite negative fraction f.minExponent
  else
    .finite negative (fraction + Nat.pow 2 f.fractionBits) (f.minExponent + field - 1)

def Format.zeroBits (f : Format) (negative : Bool) : Nat :=
  if negative then Nat.pow 2 (f.fractionBits + f.exponentBits) else 0

def Format.infinityBits (f : Format) (negative : Bool) : Nat :=
  f.zeroBits negative + f.topField * Nat.pow 2 f.fractionBits

def compareScaled (a : Nat) (e : Int) (b : Nat) (g : Int) : Ordering :=
  compare (a * Nat.pow 2 (e - g).toNat) (b * Nat.pow 2 (g - e).toNat)

/-- `⌊log₂ (num / den)⌋` for positive `num` and `den`. -/
def floorLog2 (num den : Nat) : Int :=
  let guess : Int := (Nat.log2 num : Int) - Nat.log2 den
  -- the guess is the answer or one above it
  if compareScaled den guess num 0 == .gt then guess - 1 else guess

/-- `num / den` rounded to an integer, a tie going to the even one. -/
def roundHalfEven (num den : Nat) : Nat :=
  let q := num / den
  let r := num % den
  if 2 * r > den then q + 1
  else if 2 * r < den then q
  else if q % 2 == 0 then q else q + 1

/-- The bit pattern nearest to `(-1)^negative · num / den`, a tie going to the even
significand; magnitudes past the largest finite number become an infinity. -/
def Format.roundRatio (f : Format) (negative : Bool) (num den : Nat) : Nat :=
  if num == 0 || den == 0 then f.zeroBits negative
  else
    let top := floorLog2 num den
    let e : Int := max (top - f.fractionBits) f.minExponent
    -- the significand at exponent `e`, before rounding, is `num / (den · 2^e)`
    let m := roundHalfEven (num * Nat.pow 2 (-e).toNat) (den * Nat.pow 2 e.toNat)
    let (m, e) := if m == Nat.pow 2 f.precision then (m / 2, e + 1) else (m, e)
    if m < Nat.pow 2 f.fractionBits then
      f.zeroBits negative + m
    else
      let field := e - f.minExponent + 1
      if field ≥ f.topField then f.infinityBits negative
      else f.zeroBits negative + field.toNat * Nat.pow 2 f.fractionBits + (m - Nat.pow 2 f.fractionBits)

/-- The bit pattern nearest to `(-1)^negative · digits · 10^exponent`. Decimals whose
magnitude lies far outside every format's range are settled before any power is built. -/
def Format.roundDecimal (f : Format) (negative : Bool) (digits : Nat) (exponent : Int) : Nat :=
  let size : Int := exponent + (Nat.toDigits 10 digits).length
  if digits == 0 || size < -400 then f.zeroBits negative
  else if size > 400 then f.infinityBits negative
  else f.roundRatio negative (digits * Nat.pow 10 exponent.toNat) (Nat.pow 10 (-exponent).toNat)

end ResilientAgent.Numeral
