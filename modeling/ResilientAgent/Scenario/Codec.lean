import ResilientAgent.Json.Print
import ResilientAgent.Json.Decode
import ResilientAgent.Time.Instant

/-!
# Scenario values

A scenario is a JSON description of work for the runtime to do under a scripted clock, and its
report is JSON too. This module fixes how the plain values are written in both:

* a duration is read from a whole number of milliseconds or from `{"secs", "nanos"}` (each
  absent field zero, nanoseconds past a second carried), and written as `[secs, nanos]`;
* an instant is read as whole milliseconds since 2024-01-01T00:00:00Z and written as RFC 3339
  text;
* integers are read only when they fit the width the runtime gives them.

Every reader answers `none` for a value of the wrong shape, and a scenario with such a value
is refused as a whole.
-/

namespace ResilientAgent

namespace Json

def intIn? (j : Json) (lo hi : Int) : Option Int :=
  match j with
  | .number (.int n) => if lo ≤ n && n ≤ hi then some n else none
  | _ => none

def u64? (j : Json) : Option Nat := (j.intIn? 0 (Int.ofNat (Nat.pow 2 64) - 1)).map Int.toNat

def u32? (j : Json) : Option Nat := (j.intIn? 0 (Int.ofNat (Nat.pow 2 32) - 1)).map Int.toNat

def u8? (j : Json) : Option Nat := (j.intIn? 0 255).map Int.toNat

def i64? (j : Json) : Option Int := j.intIn? (-(Int.ofNat (Nat.pow 2 63))) (Int.ofNat (Nat.pow 2 63) - 1)

def textOr (j : Json) (key : String) : Option String :=
  match j.get? key with
  | none => some ""
  | some v => v.str?

def memberOr (j : Json) (key : String) (fallback : Json) : Json :=
  match j.get? key with
  | none | some .null => fallback
  | some v => v

def withMember (j : Json) (key : String) (value : Json) : Json :=
  match j with
  | .object fields => .object (fields ++ [(key, value)])
  | other => other

/-- A member read by `decode`, or `fallback` when absent or `null`; `none` when present and
refused. -/
def readOr {α : Type} (j : Json) (key : String) (decode : Json → Option α) (fallback : α) : Option α :=
  match j.get? key with
  | none | some .null => some fallback
  | some v => decode v

def readOpt {α : Type} (j : Json) (key : String) (decode : Json → Option α) : Option (Option α) :=
  match j.get? key with
  | none | some .null => some none
  | some v => (decode v).map some

def read {α : Type} (j : Json) (key : String) (decode : Json → Option α) : Option α :=
  (j.get? key).bind decode

def readEach {α : Type} (decode : Json → Option α) (j : Json) : Option (List α) :=
  j.array?.bind fun items => items.mapM decode

def strings? (j : Json) : Option (List String) := j.readEach str?

end Json

namespace Scenario

def duration? (j : Json) : Option Duration :=
  match j with
  | .number _ => j.u64?.map Duration.ofMillis
  | .object _ => do
    let secs ← j.readOr "secs" Json.u64? 0
    let nanos ← j.readOr "nanos" Json.u32? 0
    let total := secs * Duration.nanosPerSecond + nanos
    if total ≤ Duration.max.toNanos then some ⟨total⟩ else none
  | _ => none

def durationJson (d : Duration) : Json := .array [Json.nat d.secs, Json.nat d.subsecNanos]

def instant? (j : Json) : Option Instant := do
  let ms ← j.i64?
  let t := Instant.scriptEpoch.addMillis ms
  if Instant.minUtc.sinceEpoch ≤ t.sinceEpoch && t.sinceEpoch ≤ Instant.maxUtc.sinceEpoch then
    some t
  else none

def instantJson (t : Instant) : Json := .string t.rfc3339

def instantOptJson : Option Instant → Json := Json.opt instantJson

def typed {α : Type} (d : Decoder α) (j : Json) : Option α := (j.decode d).toOption

def okJson (v : Json) : Json := .object [("ok", v)]

def errJson (e : Json) : Json := .object [("err", e)]

def refused : Json := .object [("error", .string "bad_input")]

def haltedJson (reason : String) : Json :=
  .object [("error", .string "panic"), ("message", .string reason)]

end Scenario

end ResilientAgent
