import ResilientAgent.Numeral.Text

/-!
# Durations

A duration is a whole number of nanoseconds, at most `2^64` seconds less one nanosecond. It is
read from float seconds by rounding to the nearest nanosecond (a tie to the even one) and
written back as float seconds by adding the whole seconds to the nanoseconds over `10^9`.

The debug text picks the largest unit among `s`, `ms`, `µs` and `ns` in which the duration is
at least one, and writes the exact decimal in that unit without trailing zeros: `1.5µs`,
`100.00000001s`, `0ns`.
-/

namespace ResilientAgent

structure Duration where
  toNanos : Nat
  deriving Repr, DecidableEq, Inhabited, Ord

namespace Duration

def nanosPerSecond : Nat := 1000000000

def zero : Duration := ⟨0⟩

def max : Duration := ⟨(Nat.pow 2 64 - 1) * nanosPerSecond + (nanosPerSecond - 1)⟩

def ofMillis (ms : Nat) : Duration := ⟨ms * 1000000⟩

def ofSecs (s : Nat) : Duration := ⟨s * nanosPerSecond⟩

def secs (d : Duration) : Nat := d.toNanos / nanosPerSecond

def subsecNanos (d : Duration) : Nat := d.toNanos % nanosPerSecond

def millis (d : Duration) : Nat := d.toNanos / 1000000

def ceilMillis (d : Duration) : Nat := (d.toNanos + 999999) / 1000000

instance : LT Duration := ⟨fun a b => a.toNanos < b.toNanos⟩
instance : LE Duration := ⟨fun a b => a.toNanos ≤ b.toNanos⟩
instance (a b : Duration) : Decidable (a < b) := inferInstanceAs (Decidable (a.toNanos < b.toNanos))
instance (a b : Duration) : Decidable (a ≤ b) := inferInstanceAs (Decidable (a.toNanos ≤ b.toNanos))
instance : Add Duration := ⟨fun a b => ⟨a.toNanos + b.toNanos⟩⟩

def isZero (d : Duration) : Bool := d.toNanos == 0

def saturatingSub (a b : Duration) : Duration := ⟨a.toNanos - b.toNanos⟩

def saturatingAdd (a b : Duration) : Duration := ⟨Nat.min (a.toNanos + b.toNanos) max.toNanos⟩

def checkedAdd? (a b : Duration) : Option Duration :=
  if a.toNanos + b.toNanos ≤ max.toNanos then some ⟨a.toNanos + b.toNanos⟩ else none

def checkedMul? (d : Duration) (k : Nat) : Option Duration :=
  if d.toNanos * k ≤ max.toNanos then some ⟨d.toNanos * k⟩ else none

def min (a b : Duration) : Duration := if a.toNanos ≤ b.toNanos then a else b

def larger (a b : Duration) : Duration := if a.toNanos ≤ b.toNanos then b else a

@[simp] theorem toNanos_ofMillis (ms : Nat) : (ofMillis ms).toNanos = ms * 1000000 := rfl

@[simp] theorem toNanos_saturatingSub (a b : Duration) :
    (saturatingSub a b).toNanos = a.toNanos - b.toNanos := rfl

@[simp] theorem toNanos_min (a b : Duration) :
    (min a b).toNanos = Min.min a.toNanos b.toNanos := by
  simp only [Duration.min, Nat.min_def]
  split <;> rfl

@[simp] theorem toNanos_larger (a b : Duration) :
    (larger a b).toNanos = Max.max a.toNanos b.toNanos := by
  simp only [larger, Nat.max_def]
  split <;> rfl

/-- The decimal digits of `fraction / 10^width` after the point, without trailing zeros. -/
def fractionDigits (fraction width : Nat) : String :=
  let padded := Numeral.zeros (width - (Nat.toDigits 10 fraction).length) ++ Numeral.digitString fraction
  String.ofList (padded.toList.reverse.dropWhile (· == '0')).reverse

def decimalInUnit (whole fraction width : Nat) (unit : String) : String :=
  let digits := fractionDigits fraction width
  Numeral.digitString whole ++ (if digits.isEmpty then "" else "." ++ digits) ++ unit

/-- The debug text: the largest unit in which the duration is at least one, exact decimals. -/
def debugText (d : Duration) : String :=
  if d.secs > 0 then decimalInUnit d.secs d.subsecNanos 9 "s"
  else if d.subsecNanos ≥ 1000000 then
    decimalInUnit (d.subsecNanos / 1000000) (d.subsecNanos % 1000000) 6 "ms"
  else if d.subsecNanos ≥ 1000 then
    decimalInUnit (d.subsecNanos / 1000) (d.subsecNanos % 1000) 3 "µs"
  else decimalInUnit d.subsecNanos 0 0 "ns"

/-- The duration in seconds as a binary64 float: whole seconds and nanoseconds are each rounded
to a float, then added. -/
def toSecsFloat (d : Duration) : Float :=
  Numeral.floatOfInt d.secs + Numeral.floatOfInt d.subsecNanos / 1000000000.0

/-- The duration in milliseconds as a binary64 float, computed like `toSecsFloat`. -/
def toMillisFloat (d : Duration) : Float :=
  Numeral.floatOfInt d.secs * 1000.0 + Numeral.floatOfInt d.subsecNanos / 1000000.0

/-- Why float seconds are no duration. -/
inductive FloatSecondsError where
  | negative
  | tooBigOrNan
  deriving Repr, DecidableEq

def FloatSecondsError.message : FloatSecondsError → String
  | .negative => "cannot convert float seconds to Duration: value is negative"
  | .tooBigOrNan => "cannot convert float seconds to Duration: value is either too big or NaN"

/-- Float seconds as a duration, rounded to the nearest nanosecond with a tie to the even one;
negative values and values of `2^64` seconds or more (and NaN) are refused. -/
def ofSecsFloat? (x : Float) : Except FloatSecondsError Duration :=
  if x < 0.0 then .error .negative
  else
    match Numeral.Format.binary64.decode x.toBits.toNat with
    | .finite _ m q =>
      if m == 0 then .ok zero
      else if q ≥ 0 then
        let whole := m * Nat.pow 2 q.toNat
        if whole ≥ Nat.pow 2 64 then .error .tooBigOrNan else .ok ⟨whole * nanosPerSecond⟩
      else
        let den := Nat.pow 2 q.natAbs
        if m / den ≥ Nat.pow 2 64 then .error .tooBigOrNan
        else .ok ⟨Numeral.roundHalfEven (m * nanosPerSecond) den⟩
    | _ => .error .tooBigOrNan

/-- The duration scaled by `rhs`: the float product `rhs · seconds`, read back as float seconds
are; a product that is no duration is refused. -/
def mulFloat? (d : Duration) (rhs : Float) : Except FloatSecondsError Duration :=
  ofSecsFloat? (rhs * d.toSecsFloat)

end Duration

end ResilientAgent
