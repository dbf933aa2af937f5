import ResilientAgent.Numeral.Shortest

/-!
# Number text

Two written forms of a binary number share the shortest digits of `Numeral.shortest` and differ
in layout:

* the *data* form, used wherever a number is written into JSON: positional while the decimal
  point falls within sixteen places of the first digit and no more than five zeros follow the
  point, otherwise `d.ddde+N` / `d.ddde-N`; an integral positional number keeps `.0`;
* the *plain* form, used in messages: always positional, with no `.0` on integral values;
* the *debug* form, used in diagnostics: positional with at least one digit after the point
  from `1e-4` up to below `1e16`, otherwise `d.dddeN` with no `+` on the exponent.

Reading goes the other way: `readDecimal` accepts the usual decimal grammar (sign, digits, point,
exponent, and the words `inf`, `infinity`, `nan`) and rounds exactly.
-/

namespace ResilientAgent.Numeral

def digitString (n : Nat) : String := String.ofList (Nat.toDigits 10 n)

def zeros (n : Nat) : String := String.ofList (List.replicate n '0')

/-- Layout of shortest digits `s` (as text) with value `s · 10^k`, in the data form. -/
def dataLayout (s : String) (k : Int) : String :=
  let n : Int := s.length
  let point := n + k
  if 0 ≤ k && point ≤ 16 then s ++ zeros k.toNat ++ ".0"
  else if 0 < point && point ≤ 16 then
    String.ofList (s.toList.take point.toNat) ++ "." ++ String.ofList (s.toList.drop point.toNat)
  else if -5 < point && point ≤ 0 then "0." ++ zeros point.natAbs ++ s
  else
    let exp := point - 1
    let expText := (if exp < 0 then "-" else "+") ++ digitString exp.natAbs
    match s.toList with
    | [d] => String.singleton d ++ "e" ++ expText
    | d :: rest => String.singleton d ++ "." ++ String.ofList rest ++ "e" ++ expText
    | [] => "0e" ++ expText

/-- Layout of shortest digits `s` with value `s · 10^k`, in the plain form. -/
def plainLayout (s : String) (k : Int) : String :=
  let n : Int := s.length
  let point := n + k
  if 0 ≤ k then s ++ zeros k.toNat
  else if 0 < point then
    String.ofList (s.toList.take point.toNat) ++ "." ++ String.ofList (s.toList.drop point.toNat)
  else "0." ++ zeros point.natAbs ++ s

/-- Layout of shortest digits `s` with value `s · 10^k`, in the debug form: positional, with at
least one digit after the point, when the first digit stands between `10^-4` and `10^15`;
otherwise `d.dddeN` / `d.ddde-N`, with no sign on a positive exponent. -/
def debugLayout (s : String) (k : Int) : String :=
  let n : Int := s.length
  let point := n + k
  let exp := point - 1
  if -4 ≤ exp && exp < 16 then
    if 0 ≤ k then s ++ zeros k.toNat ++ ".0"
    else if 0 < point then
      String.ofList (s.toList.take point.toNat) ++ "." ++ String.ofList (s.toList.drop point.toNat)
    else "0." ++ zeros point.natAbs ++ s
  else
    let expText := (if exp < 0 then "-" else "") ++ digitString exp.natAbs
    match s.toList with
    | [d] => String.singleton d ++ "e" ++ expText
    | d :: rest => String.singleton d ++ "." ++ String.ofList rest ++ "e" ++ expText
    | [] => "0e" ++ expText

/-- The data form of a bit pattern of format `f`; `none` for NaN and infinities. -/
def dataText? (f : Format) (bits : Nat) : Option String :=
  match f.decode bits with
  | .finite negative m q =>
    let sign := if negative then "-" else ""
    if m == 0 then some (sign ++ "0.0")
    else
      let d := shortest f m q
      some (sign ++ dataLayout (digitString d.significand) d.exponent)
  | _ => none

/-- The plain form of a bit pattern of format `f`. -/
def plainText (f : Format) (bits : Nat) : String :=
  match f.decode bits with
  | .finite negative m q =>
    let sign := if negative then "-" else ""
    if m == 0 then sign ++ "0"
    else
      let d := shortest f m q
      sign ++ plainLayout (digitString d.significand) d.exponent
  | .infinite negative => if negative then "-inf" else "inf"
  | .nan => "NaN"

/-- The debug form of a bit pattern of format `f`, the form diagnostics show a number in. -/
def debugText (f : Format) (bits : Nat) : String :=
  match f.decode bits with
  | .finite negative m q =>
    let sign := if negative then "-" else ""
    if m == 0 then sign ++ "0.0"
    else
      let d := shortest f m q
      sign ++ debugLayout (digitString d.significand) d.exponent
  | .infinite negative => if negative then "-inf" else "inf"
  | .nan => "NaN"

def floatDataText? (x : Float) : Option String :=
  dataText? .binary64 x.toBits.toNat

def floatPlainText (x : Float) : String :=
  plainText .binary64 x.toBits.toNat

def floatDebugText (x : Float) : String :=
  debugText .binary64 x.toBits.toNat

def floatPointedText (x : Float) : String :=
  let t := floatPlainText x
  if x.isFinite && !t.contains '.' then t ++ ".0" else t

def ofBits64 (bits : Nat) : Float := Float.ofBits bits.toUInt64

/-- The least natural number at or above a binary64 value; zero for a value at most zero, an
infinity or NaN. -/
def floatCeilNat (x : Float) : Nat := (Format.binary64.decode x.toBits.toNat).ceilNat

def floatOfInt (n : Int) : Float :=
  ofBits64 (Format.binary64.roundRatio (n < 0) n.natAbs 1)

def intBinary32Bits (n : Int) : Nat :=
  Format.binary32.roundRatio (n < 0) n.natAbs 1

/-- The binary32 value nearest to a binary64 value, as binary32 bits. -/
def toBinary32Bits (x : Float) : Nat :=
  match Format.binary64.decode x.toBits.toNat with
  | .finite negative m q =>
    Format.binary32.roundRatio negative (m * Nat.pow 2 q.toNat) (Nat.pow 2 (-q).toNat)
  | .infinite negative => Format.binary32.infinityBits negative
  | .nan => Format.binary32.topField * Nat.pow 2 23 + Nat.pow 2 22

/-- The binary64 value of binary32 bits, which it holds exactly. -/
def ofBinary32Bits (bits : Nat) : Float :=
  match Format.binary32.decode bits with
  | .finite negative m q =>
    ofBits64 (Format.binary64.roundRatio negative (m * Nat.pow 2 q.toNat) (Nat.pow 2 (-q).toNat))
  | .infinite negative => ofBits64 (Format.binary64.infinityBits negative)
  | .nan => ofBits64 (Format.binary64.topField * Nat.pow 2 52 + Nat.pow 2 51)

/-- A decimal numeral split into sign, digits and exponent. -/
structure DecimalParts where
  negative : Bool
  digits : Nat
  exponent : Int
  deriving Repr, DecidableEq

/-- What decimal text denotes before rounding. -/
inductive Reading where
  | number (n : DecimalParts)
  | infinity (negative : Bool)
  | nan
  deriving Repr, DecidableEq

/-- Reads `digits` from the front of `cs`, returning their value, their count and the rest. -/
def takeDigits (cs : List Char) : Nat × Nat × List Char :=
  let ds := cs.takeWhile Char.isDigit
  (ds.foldl (fun acc c => acc * 10 + (c.toNat - '0'.toNat)) 0, ds.length, cs.drop ds.length)

/-- Parses the decimal grammar: an optional sign, then `inf`, `infinity` or `nan` in any
case, or digits with an optional point and fraction (at least one digit in all) and an
optional exponent `e`/`E` with optional sign and at least one digit. -/
def readDecimal (text : String) : Option Reading :=
  let (negative, body) := match text.toList with
    | '-' :: rest => (true, rest)
    | '+' :: rest => (false, rest)
    | cs => (false, cs)
  let word := String.ofList (body.map Char.toLower)
  if word == "inf" || word == "infinity" then some (.infinity negative)
  else if word == "nan" then some .nan
  else
    let (whole, wholeCount, rest) := takeDigits body
    let (frac, fracCount, rest) := match rest with
      | '.' :: more =>
        let (v, n, r) := takeDigits more
        (v, n, r)
      | r => (0, 0, r)
    if wholeCount + fracCount == 0 then none
    else
      let mantissa := whole * Nat.pow 10 fracCount + frac
      let exponent : Option Int := match rest with
        | [] => some 0
        | c :: more =>
          if c == 'e' || c == 'E' then
            let (expNegative, digitsPart) := match more with
              | '-' :: r => (true, r)
              | '+' :: r => (false, r)
              | r => (false, r)
            let (v, n, r) := takeDigits digitsPart
            if n == 0 || !r.isEmpty then none
            else some (if expNegative then -(v : Int) else v)
          else none
      exponent.map fun e => .number ⟨negative, mantissa, e - fracCount⟩

/-- The binary64 value of decimal text, rounded exactly; `none` when the text is no decimal. -/
def parseFloat? (text : String) : Option Float :=
  (readDecimal text).map fun
    | .number n => ofBits64 (Format.binary64.roundDecimal n.negative n.digits n.exponent)
    | .infinity negative => ofBits64 (Format.binary64.infinityBits negative)
    | .nan => ofBits64 (Format.binary64.topField * Nat.pow 2 52 + Nat.pow 2 51)

/-- Binary64 powers of ten `10^0 … 10^308`, each the nearest to the exact power. -/
def powersOfTen : Array Float :=
  (List.range 309).toArray.map fun (i : Nat) => ofBits64 (Format.binary64.roundDecimal false 1 i)

/-- A 64-bit significand scaled by a power of ten with binary64 arithmetic: the significand is
rounded once, then multiplied or divided by table powers, stepping by `10^308` below the table.
`none` when a positive scale overflows. -/
def scaleBySteps (significand : Nat) (exponent : Int) : Option Float := Id.run do
  let mut f := ofBits64 (Format.binary64.roundRatio false significand 1)
  let mut e := exponent
  for _ in [0:40] do
    match powersOfTen[e.natAbs]? with
    | some p =>
      if e ≥ 0 then
        f := f * p
        if f.isInf then return none
      else
        f := f / p
      return some f
    | none =>
      if f == 0.0 then return some f
      if e ≥ 0 then return none
      f := f / powersOfTen.getD 308 1.0
      e := e + 308
  return some f

end ResilientAgent.Numeral
