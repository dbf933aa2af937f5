import ResilientAgent.Time.Duration

/-!
# Instants

An instant is a whole number of nanoseconds since 1970-01-01T00:00:00Z in the proleptic
Gregorian calendar, between the first instant of year -262143 and the last nanosecond of year
262142. Adding a duration saturates at that last nanosecond. The time elapsed between two
instants, as the breaker and the bucket see it, is counted in whole milliseconds and never
negative.

Instants are written as RFC 3339 text in UTC: `2024-01-01T00:02:31Z`, with fractional seconds
only when they are not zero, as three, six or nine digits, the fewest that are exact; years
outside `0..9999` carry their sign (`+262142-12-31T23:59:59.999999999Z`).
-/

namespace ResilientAgent

/-- Numbers that count elapsed seconds: zero, and the seconds in a whole number of
milliseconds. Running code counts in floats; exact rationals follow the same rules without
rounding. -/
class SecondsCount (α : Type) extends Zero α where
  ofMillis : Int → α

instance : SecondsCount Float where
  zero := 0.0
  ofMillis ms := Numeral.floatOfInt ms / 1000.0

structure Instant where
  sinceEpoch : Int
  deriving Repr, DecidableEq, Inhabited, Ord

namespace Instant

def nanosPerDay : Int := 86400 * 1000000000

/-- Days since 1970-01-01 of a date of the proleptic Gregorian calendar. -/
def daysFromCivil (year : Int) (month day : Nat) : Int :=
  let y := if month ≤ 2 then year - 1 else year
  let era := y / 400
  let yearOfEra := y - era * 400
  let shiftedMonth : Int := if month > 2 then month - 3 else month + 9
  let dayOfYear := (153 * shiftedMonth + 2) / 5 + day - 1
  let dayOfEra := yearOfEra * 365 + yearOfEra / 4 - yearOfEra / 100 + dayOfYear
  era * 146097 + dayOfEra - 719468

/-- The date `(year, month, day)` of a day counted from 1970-01-01. -/
def civilFromDays (days : Int) : Int × Nat × Nat :=
  let z := days + 719468
  let era := z / 146097
  let dayOfEra := z - era * 146097
  let yearOfEra := (dayOfEra - dayOfEra / 1460 + dayOfEra / 36524 - dayOfEra / 146096) / 365
  let dayOfYear := dayOfEra - (365 * yearOfEra + yearOfEra / 4 - yearOfEra / 100)
  let mp := (5 * dayOfYear + 2) / 153
  let day := dayOfYear - (153 * mp + 2) / 5 + 1
  let month := if mp < 10 then mp + 3 else mp - 9
  let year := yearOfEra + era * 400 + (if month ≤ 2 then 1 else 0)
  (year, month.toNat, day.toNat)

def ofDate (year : Int) (month day : Nat) : Instant := ⟨daysFromCivil year month day * nanosPerDay⟩

def minUtc : Instant := ofDate (-262143) 1 1

def maxUtc : Instant := ⟨(ofDate 262143 1 1).sinceEpoch - 1⟩

def scriptEpoch : Instant := ofDate 2024 1 1

def addMillis (t : Instant) (ms : Int) : Instant := ⟨t.sinceEpoch + ms * 1000000⟩

/-- The instant a duration after `t`, or the last representable instant if that is later. -/
def add (t : Instant) (d : Duration) : Instant :=
  let later := t.sinceEpoch + d.toNanos
  if later ≤ maxUtc.sinceEpoch then ⟨later⟩ else maxUtc

def millisBetween (a b : Instant) : Int := (b.sinceEpoch - a.sinceEpoch).tdiv 1000000

/-- Seconds elapsed from `a` to `b` in whole milliseconds; zero when `b` is not later by at
least a millisecond. -/
def elapsedSecs {α : Type} [SecondsCount α] (a b : Instant) : α :=
  let ms := millisBetween a b
  if ms ≤ 0 then 0 else SecondsCount.ofMillis ms

def durationSince (b a : Instant) : Duration := ⟨(b.sinceEpoch - a.sinceEpoch).toNat⟩

def padded (width : Nat) (n : Nat) : String :=
  let s := Numeral.digitString n
  Numeral.zeros (width - s.length) ++ s

/-- The RFC 3339 text of the instant in UTC. -/
def rfc3339 (t : Instant) : String :=
  let days := t.sinceEpoch / nanosPerDay
  let ofDay := (t.sinceEpoch - days * nanosPerDay).toNat
  let (year, month, day) := civilFromDays days
  let secsOfDay := ofDay / 1000000000
  let nanos := ofDay % 1000000000
  let yearText :=
    if 0 ≤ year && year ≤ 9999 then padded 4 year.toNat
    else (if year < 0 then "-" else "+") ++ padded 4 year.natAbs
  let fraction :=
    if nanos == 0 then ""
    else if nanos % 1000000 == 0 then "." ++ padded 3 (nanos / 1000000)
    else if nanos % 1000 == 0 then "." ++ padded 6 (nanos / 1000)
    else "." ++ padded 9 nanos
  yearText ++ "-" ++ padded 2 month ++ "-" ++ padded 2 day ++ "T" ++
    padded 2 (secsOfDay / 3600) ++ ":" ++ padded 2 (secsOfDay / 60 % 60) ++ ":" ++
    padded 2 (secsOfDay % 60) ++ fraction ++ "Z"

def truncateMillis (t : Instant) : Instant := ⟨t.sinceEpoch / 1000000 * 1000000⟩

end Instant

end ResilientAgent
