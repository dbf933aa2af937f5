import ResilientAgent.Config.Basic
import ResilientAgent.Time.Instant

/-!
# Token bucket state

A bucket holds up to its capacity of tokens and gains `rate` tokens per second of elapsed time
(counted in whole milliseconds, never backwards). Taking `n` tokens first refills, then
succeeds if at least `n` are there; otherwise it reports how long the deficit takes to refill.
A bucket starts full. A refill needs a capacity of at least zero: with a negative or NaN
capacity it stops the program, as `BucketConfig.refillFault?` says.

The level's arithmetic is written once for any `TokenCount`: running buckets count in floats,
and the bucket's laws are stated over exact rationals, which follow the same rules without
rounding.
-/

namespace ResilientAgent

/-- Numbers a bucket counts tokens in: elapsed seconds, sums, differences, products and
quotients, with a decidable order, and rounded up to a whole number. -/
class TokenCount (α : Type) extends SecondsCount α, Add α, Sub α, Mul α, Div α, LT α, LE α where
  decLt : DecidableRel (α := α) (· < ·)
  decLe : DecidableRel (α := α) (· ≤ ·)
  /-- The least whole number at or above a count; zero for a count at most zero. -/
  ceilNat : α → Nat

instance TokenCount.instDecidableLt {α : Type} [TokenCount α] : DecidableRel (α := α) (· < ·) :=
  TokenCount.decLt

instance TokenCount.instDecidableLe {α : Type} [TokenCount α] : DecidableRel (α := α) (· ≤ ·) :=
  TokenCount.decLe

instance : TokenCount Float where
  decLt := Float.decLt
  decLe := Float.decLe
  ceilNat := Numeral.floatCeilNat

/-- The level of one bucket and when it was last refilled. -/
structure BucketLevel (α : Type) where
  tokens : α
  lastRefillAt : Instant
  deriving Inhabited

abbrev BucketState := BucketLevel Float

/-- The outcome of one attempt to take tokens. -/
inductive Acquire where
  | granted
  /-- Not enough tokens: the deficit is refilled after `retryAfter`. -/
  | denied (retryAfter : Duration)
  deriving Inhabited

/-- What one attempt to take tokens found, counted in tokens: enough, or a shortfall. -/
inductive Grant (α : Type) where
  | granted
  | short (deficit : α)
  deriving DecidableEq

def clampBetween {α : Type} [LT α] [DecidableRel (α := α) (· < ·)] (x lo hi : α) : α :=
  if x < lo then lo else if x > hi then hi else x

/-- Why a bucket of this configuration cannot be refilled, if it cannot: holding a level
within `[0, capacity]` needs `0 ≤ capacity`, which a negative or NaN capacity breaks, and the
refill then stops the whole program with this message. -/
def BucketConfig.refillFault? (config : BucketConfig) : Option String :=
  let capacity := config.effectiveCapacity
  if 0.0 ≤ capacity then none
  else some ("min > max, or either was NaN. min = 0.0, max = " ++ Numeral.floatDebugText capacity)

/-- How long `deficit` tokens take to refill, or the longest duration if that is no duration. -/
def deficitWait (config : BucketConfig) (deficit : Float) : Duration :=
  match Duration.ofSecsFloat? (deficit / config.rate) with
  | .ok d => d
  | .error _ => Duration.max

/-- Tries it takes a bucket to fill from empty when each try comes a millisecond after the last:
the burst size over the tokens a millisecond earns, rounded up, and the first try. -/
def BucketRates.fillAttempts {α : Type} [TokenCount α] (config : BucketRates α) : Nat :=
  TokenCount.ceilNat (config.effectiveCapacity / (config.rate * SecondsCount.ofMillis 1)) + 1

namespace BucketLevel

variable {α : Type} [TokenCount α]

def full (config : BucketRates α) (now : Instant) : BucketLevel α :=
  ⟨config.effectiveCapacity, now⟩

/-- Adds the tokens earned since the last refill, within `[0, capacity]`; the refill mark only
moves forward. -/
def refill (s : BucketLevel α) (config : BucketRates α) (now : Instant) : BucketLevel α :=
  let added := Instant.elapsedSecs s.lastRefillAt now * config.rate
  { tokens := clampBetween (s.tokens + added) 0 config.effectiveCapacity
    lastRefillAt := if now.sinceEpoch > s.lastRefillAt.sinceEpoch then now else s.lastRefillAt }

/-- Refills, then takes `n` tokens if they are there, or reports how many are missing. -/
def take (s : BucketLevel α) (config : BucketRates α) (n : α) (now : Instant) :
    Grant α × BucketLevel α :=
  let s := s.refill config now
  if s.tokens ≥ n then (.granted, { s with tokens := s.tokens - n })
  else (.short (n - s.tokens), s)

end BucketLevel

namespace BucketState

/-- Refills, then takes `n` tokens if they are there; a shortfall is reported as the time it
takes to refill. -/
def tryConsume (s : BucketState) (config : BucketConfig) (n : Float) (now : Instant) :
    Acquire × BucketState :=
  match s.take config n now with
  | (.granted, s) => (.granted, s)
  | (.short deficit, s) => (.denied (deficitWait config deficit), s)

end BucketState

def BucketLevel.toJson (s : BucketState) : Json :=
  .object [("tokens", Json.float s.tokens), ("last_refill_at", .string s.lastRefillAt.rfc3339)]

end ResilientAgent
