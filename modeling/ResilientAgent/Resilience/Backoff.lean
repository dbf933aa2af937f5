import ResilientAgent.Config.Basic

/-!
# Backoff

How long to wait before the next attempt. A fixed backoff always waits its initial delay. An
exponential one waits `initial · base^attempt`, counting attempts from zero, capped at its
maximum: the power is taken by repeated squaring in binary64 arithmetic with the exponent
capped at `2^31 - 1`, and a product that is no duration (negative, too large, NaN) also gives
the maximum.
-/

namespace ResilientAgent

/-- The shape of a backoff. -/
inductive BackoffKind where
  | fixed
  | exponential
  deriving Repr, DecidableEq, Inhabited

def BackoffKind.name : BackoffKind → String
  | .fixed => "fixed"
  | .exponential => "exponential"

/-- A backoff schedule. -/
structure Backoff where
  kind : BackoffKind
  initial : Duration
  base : Float
  max : Duration
  /-- Whether delays are scaled by a random factor; scripted runs keep it off. -/
  jitter : Bool
  deriving Inhabited

namespace Backoff

def fixed (delay : Duration) : Backoff := ⟨.fixed, delay, 1.0, delay, false⟩

def exponential (initial : Duration) (base : Float) (max : Duration) : Backoff :=
  ⟨.exponential, initial, base, max, true⟩

def ofConfig (c : RetryConfig) : Backoff :=
  { exponential c.initialDelay c.base c.maxDelay with jitter := c.jitter }

/-- `a^b` by repeated squaring, rounding after every product: the loop multiplies the result
by the current square for each set bit of `b`, from the lowest. -/
def powSquaring (a : Float) (b : Nat) : Float :=
  go a b 1.0 64
where
  /-- One bit per round; `fuel` rounds cover exponents below `2^fuel`. -/
  go (a : Float) (b : Nat) (r : Float) : Nat → Float
    | 0 => r
    | fuel + 1 =>
      let r := if b % 2 == 1 then r * a else r
      if b / 2 == 0 then r else go (a * a) (b / 2) r fuel

def exponentCap : Nat := Nat.pow 2 31 - 1

/-- The delay before attempt `attempt`, counted from zero. -/
def delayFor (b : Backoff) (attempt : Nat) : Duration :=
  match b.kind with
  | .fixed => b.initial
  | .exponential =>
    let secs := b.initial.toSecsFloat * powSquaring b.base (Nat.min attempt exponentCap)
    match Duration.ofSecsFloat? secs with
    | .ok d => if d < b.max then d else b.max
    | .error _ => b.max

end Backoff

end ResilientAgent
