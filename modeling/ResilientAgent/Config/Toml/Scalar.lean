import ResilientAgent.Json.Value
import ResilientAgent.Numeral.Text

/-!
# Scalars in settings files

Numbers, booleans and dates as a settings file writes them, read from the start of a value.

* An integer is decimal with an optional sign and no leading zero, or hexadecimal, octal or
  binary after `0x`, `0o`, `0b`; single underscores may stand between digits. It must fit in
  a signed 64-bit word.
* A float is a decimal integer part followed by a fraction, an exponent or both, or `inf` or
  `nan` with an optional sign. It must not round to positive infinity.
* A date is `YYYY-MM-DD`, optionally followed by `T`, `t` or a blank and a time `HH:MM:SS`
  with an optional fraction and offset (`Z` or `±HH:MM`); a time may also stand alone. A
  day must exist in its month, the 29th of February only in a leap year.
* A boolean is `true` or `false`.

Reading tries a date first, then a float, then an integer, and takes the first that reads.
Once a kind of value has plainly begun (a date past its year, a fraction past its point, a
hex integer past its prefix), a fault inside it ends the reading with that fault; otherwise the
next kind is tried. A value is read as far as its kind goes: what follows it is for the caller
to judge.

A date is kept as a table holding its text, the form under which dates reach the settings.
-/

namespace ResilientAgent

namespace Toml

/-- How reading a value from the start of some text went. -/
inductive Scan (α : Type) where
  /-- Read: the value and the text after it. -/
  | ok (value : α) (rest : List Char)
  /-- No value of this kind starts here: why, and the text where reading stopped. -/
  | soft (message : String) (rest : List Char)
  /-- A value of this kind starts here and is malformed: why, and where. -/
  | hard (message : String) (rest : List Char)
  deriving Inhabited

namespace Scan

/-- The scan with its value changed. -/
def map {α β : Type} (f : α → β) : Scan α → Scan β
  | .ok a rest => .ok (f a) rest
  | .soft m rest => .soft m rest
  | .hard m rest => .hard m rest

def cut {α : Type} : Scan α → Scan α
  | .soft m rest => .hard m rest
  | s => s

/-- The scan with another message for a failure of either kind. -/
def relabel {α : Type} (message : String) : Scan α → Scan α
  | .soft _ rest => .soft message rest
  | .hard _ rest => .hard message rest
  | s => s

end Scan

def outOfRange : String := "value is out of range"

/-- Exactly `n` decimal digits at the start, with their value. -/
def exactDigits (n : Nat) (cs : List Char) : Option (Nat × List Char) :=
  let ds := (cs.takeWhile Char.isDigit).take n
  if ds.length == n then some (ds.foldl (fun acc c => acc * 10 + (c.toNat - 48)) 0, cs.drop n)
  else none

/-- A two-digit field no larger than `top` (and no smaller than `least`), then the rest. A
missing field fails softly; one out of range fails softly too, unless `inside` says the value
has plainly begun, when both are final. -/
def field (least top : Nat) (inside : Bool) (cs : List Char) : Scan Unit :=
  let fault (message : String) : Scan Unit := if inside then .hard message cs else .soft message cs
  match exactDigits 2 cs with
  | none => fault ""
  | some (v, rest) => if least ≤ v && v ≤ top then .ok () rest else fault outOfRange

/-- The character at the start, which must be `c`. -/
def literal (c : Char) (inside : Bool) (cs : List Char) : Scan Unit :=
  match cs with
  | d :: rest => if d == c then .ok () rest else if inside then .hard "" cs else .soft "" cs
  | [] => if inside then .hard "" cs else .soft "" cs

/-- Runs scans one after the other, each from where the last stopped. -/
def chain : List (List Char → Scan Unit) → List Char → Scan Unit
  | [], cs => .ok () cs
  | s :: more, cs =>
    match s cs with
    | .ok () rest => chain more rest
    | .soft m rest => .soft m rest
    | .hard m rest => .hard m rest

def withCause (label cause : String) : String :=
  "invalid " ++ label ++ (if cause.isEmpty then "" else "\n" ++ cause)

/-- A time `HH:MM:SS` with an optional fraction; past the first colon it is final. Faults are
causes only, for the caller to label. -/
def partialTime (cs : List Char) : Scan Unit :=
  match chain [field 0 23 false, literal ':' false] cs with
  | .ok () rest =>
    match chain [field 0 59 true, literal ':' true, field 0 60 true] rest with
    | .ok () rest =>
      match rest with
      | '.' :: more =>
        let ds := more.takeWhile Char.isDigit
        if ds.isEmpty then .ok () rest else .ok () (more.drop ds.length)
      | _ => .ok () rest
    | other => other
  | other => other

/-- A time offset: `Z` or `±HH:MM`, final past its sign. -/
def timeOffset (cs : List Char) : Scan Unit :=
  match cs with
  | 'Z' :: rest | 'z' :: rest => .ok () rest
  | s :: rest =>
    if s == '+' || s == '-' then
      match chain [field 0 23 true, literal ':' true, field 0 59 true] rest with
      | .hard m at_ => .hard (withCause "time offset" m) at_
      | other => other
    else .soft "" cs
  | [] => .soft "" cs

/-- The days of a month in a year of the Gregorian calendar. -/
def daysInMonth (year month : Nat) : Nat :=
  if month == 2 then
    if year % 4 == 0 && (year % 100 != 0 || year % 400 == 0) then 29 else 28
  else if month == 4 || month == 6 || month == 9 || month == 11 then 30
  else 31

/-- A date `YYYY-MM-DD`, final past the dash after its year. A day past the end of its month is
out of range. Faults are causes only. -/
def fullDate (cs : List Char) : Scan Unit :=
  match exactDigits 4 cs with
  | some (year, '-' :: afterYear) =>
    match exactDigits 2 afterYear with
    | none => .hard "" afterYear
    | some (month, afterMonth) =>
      if month < 1 || month > 12 then .hard outOfRange afterYear
      else
        match afterMonth with
        | '-' :: afterDash =>
          match exactDigits 2 afterDash with
          | none => .hard "" afterDash
          | some (day, rest) =>
            if day < 1 || day > daysInMonth year month then .hard outOfRange afterDash
            else .ok () rest
        | _ => .hard "" afterMonth
  | _ => .soft "" cs

/-- A date optionally with a time and an offset, or a time alone. -/
def dateTime (cs : List Char) : Scan Unit :=
  match fullDate cs with
  | .ok () rest =>
    match rest with
    | d :: afterDelim =>
      if d == 'T' || d == 't' || d == ' ' then
        match partialTime afterDelim with
        | .ok () afterTime =>
          match timeOffset afterTime with
          | .ok () afterOffset => .ok () afterOffset
          | .soft _ _ => .ok () afterTime
          | .hard m at_ => .hard m at_
        | .soft _ _ => .ok () rest
        | .hard m at_ => .hard (withCause "date-time" m) at_
      else .ok () rest
    | [] => .ok () rest
  | .hard m at_ => .hard (withCause "date-time" m) at_
  | .soft _ _ =>
    match partialTime cs with
    | .hard m at_ => .hard (withCause "time" m) at_
    | other => other

/-- Digits with single underscores between them, after a first digit: what follows them. An
underscore not followed by a digit is final. -/
def moreDigits (isDigit : Char → Bool) : List Char → Scan Unit
  | c :: rest =>
    if isDigit c then moreDigits isDigit rest
    else if c == '_' then
      match rest with
      | d :: more => if isDigit d then moreDigits isDigit more else .hard "expected digit" rest
      | [] => .hard "expected digit" rest
    else .ok () (c :: rest)
  | [] => .ok () []

/-- A decimal integer with an optional sign and no leading zero. -/
def decimalInteger (cs : List Char) : Scan Unit :=
  let unsigned := match cs with
    | '+' :: rest | '-' :: rest => rest
    | _ => cs
  match unsigned with
  | '0' :: rest => .ok () rest
  | d :: rest =>
    if d.isDigit then (moreDigits Char.isDigit rest).relabel "invalid integer\nexpected digit"
    else .soft "invalid integer" unsigned
  | [] => .soft "invalid integer" unsigned

/-- Digits that may begin with zeros, with single underscores between them. -/
def zeroPrefixable (cs : List Char) : Scan Unit :=
  match cs with
  | d :: rest => if d.isDigit then moreDigits Char.isDigit rest else .soft "" cs
  | [] => .soft "" cs

def between (cs rest : List Char) : List Char := cs.take (cs.length - rest.length)

def badFloat : String := "invalid floating-point number"

/-- An exponent: `e` or `E`, an optional sign and digits, final past the `e`. -/
def exponent (cs : List Char) : Scan Unit :=
  match cs with
  | e :: rest =>
    if e == 'e' || e == 'E' then
      let digits := match rest with
        | '+' :: more | '-' :: more => more
        | _ => rest
      match zeroPrefixable digits with
      | .ok () after => .ok () after
      | .soft _ at_ => .hard badFloat at_
      | .hard _ at_ => .hard (badFloat ++ "\nexpected digit") at_
    else .soft "" cs
  | [] => .soft "" cs

/-- The text of a float with a fraction or an exponent, without reading its value. -/
def floatText (cs : List Char) : Scan Unit :=
  match decimalInteger cs with
  | .ok () rest =>
    match rest with
    | '.' :: afterPoint =>
      match zeroPrefixable afterPoint with
      | .ok () afterFraction =>
        match exponent afterFraction with
        | .soft _ _ => .ok () afterFraction
        | other => other
      | .soft _ at_ => .hard (badFloat ++ "\nexpected digit") at_
      | .hard _ at_ => .hard (badFloat ++ "\nexpected digit, digit") at_
    | _ => exponent rest
  | other => other

def withoutUnderscores (cs : List Char) : String := String.ofList (cs.filter (· != '_'))

/-- `inf` or `nan` with an optional sign. -/
def specialFloat (cs : List Char) : Scan Float :=
  let (negative, rest) := match cs with
    | '-' :: more => (true, more)
    | '+' :: more => (false, more)
    | _ => (false, cs)
  match rest with
  | 'i' :: 'n' :: 'f' :: after => .ok (if negative then -(1.0 / 0.0) else 1.0 / 0.0) after
  | 'n' :: 'a' :: 'n' :: after => .ok (0.0 / 0.0) after
  | _ => .soft badFloat rest

/-- A float: its value and what follows it. Only a value that rounds to positive infinity is
refused. -/
def float (cs : List Char) : Scan Float :=
  match floatText cs with
  | .ok () rest =>
    match Numeral.parseFloat? (withoutUnderscores (between cs rest)) with
    | some x => if x.isInf && x > 0 then .hard badFloat cs else .ok x rest
    | none => .hard badFloat cs
  | .hard m at_ => .hard m at_
  | .soft _ _ => specialFloat cs

def digitsValue (base : Nat) (ds : List Char) : Nat :=
  ds.foldl (fun acc c =>
    acc * base + (if c.isDigit then c.toNat - 48 else c.toLower.toNat - 87)) 0

def isHexDigit (c : Char) : Bool := c.isDigit || ('a' ≤ c.toLower && c.toLower ≤ 'f')

def tooLarge : String := "number too large to fit in target type"

/-- An integer in a base after its prefix, named `kind` in faults. -/
def prefixedInteger (cs : List Char) (base : Nat) (kind : String) (isDigit : Char → Bool)
    (body : List Char) : Scan Int :=
  match body with
  | d :: rest =>
    if isDigit d then
      match moreDigits isDigit rest with
      | .ok () after =>
        let v := digitsValue base ((between body after).filter (· != '_'))
        if v < Nat.pow 2 63 then .ok (Int.ofNat v) after else .hard tooLarge cs
      | .soft _ at_ | .hard _ at_ => .hard ("invalid " ++ kind ++ "\nexpected digit") at_
    else .hard ("invalid " ++ kind) body
  | [] => .hard ("invalid " ++ kind) body

/-- An integer: decimal, or hex, octal or binary after its prefix. -/
def integer (cs : List Char) : Scan Int :=
  match cs with
  | '0' :: 'x' :: body => prefixedInteger cs 16 "hexadecimal integer" isHexDigit body
  | '0' :: 'o' :: body => prefixedInteger cs 8 "octal integer" (fun c => '0' ≤ c && c ≤ '7') body
  | '0' :: 'b' :: body => prefixedInteger cs 2 "binary integer" (fun c => c == '0' || c == '1') body
  | _ =>
    match decimalInteger cs with
    | .ok () rest =>
      let text := (between cs rest).filter (· != '_')
      let (negative, digits) := match text with
        | '-' :: ds => (true, ds)
        | '+' :: ds => (false, ds)
        | ds => (false, ds)
      let v := digitsValue 10 digits
      if negative then
        if v ≤ Nat.pow 2 63 then .ok (-(Int.ofNat v)) rest
        else .hard "number too small to fit in target type" cs
      else if v < Nat.pow 2 63 then .ok (Int.ofNat v) rest
      else .hard tooLarge cs
    | .soft m at_ => .soft m at_
    | .hard m at_ => .hard m at_

def datetimeKey : String := "$__toml_private_datetime"

def dateJson (text : List Char) : Json :=
  .object [(datetimeKey, .string (String.ofList text))]

/-- The fault of a value that is none of the kinds that may start with its first character. -/
def notAValue : String := "invalid string\nexpected `\"`, `'`"

/-- The word at the start, which must be `word`; `final` says whether a mismatch is final. -/
def word (text : String) (value : Json) (final : Bool) (cs : List Char) : Scan Json :=
  let w := text.toList
  if w.isPrefixOf cs then .ok value (cs.drop w.length)
  else if final then .hard notAValue cs else .soft notAValue cs

/-- A scalar value at the start of the text: a date, a float, an integer, a boolean, `inf` or
`nan`, chosen by its first character. -/
def scalar (cs : List Char) : Scan Json :=
  match cs with
  | [] => .soft "" []
  | c :: _ =>
    if c == '+' || c == '-' || c.isDigit then
      match dateTime cs with
      | .ok () rest => .ok (dateJson (between cs rest)) rest
      | .hard m at_ => .hard m at_
      | .soft _ _ =>
        match float cs with
        | .ok x rest => .ok (Json.float x) rest
        | .hard m at_ => .hard m at_
        | .soft _ _ => (integer cs).map Json.int
    else if c == '_' then
      match integer cs with
      | .soft _ at_ => .soft "invalid integer\nexpected leading digit" at_
      | other => other.map Json.int
    else if c == '.' then
      match float cs with
      | .soft _ at_ => .soft (badFloat ++ "\nexpected leading digit") at_
      | other => other.map Json.float
    else if c == 't' then word "true" (.bool true) true cs
    else if c == 'f' then word "false" (.bool false) true cs
    else if c == 'i' then word "inf" (Json.float (1.0 / 0.0)) false cs
    else if c == 'n' then word "nan" (Json.float (0.0 / 0.0)) false cs
    else .soft notAValue cs

end Toml

end ResilientAgent
