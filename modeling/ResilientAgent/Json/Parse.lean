import ResilientAgent.Json.Value

/-!
# Reading JSON

Reading works on the UTF-8 bytes of the text and stops at the first fault, reporting where it
stopped as a line and a byte column. Most faults are reported at the byte after the one that
was looked at (`peekFault`); faults found while consuming a token are reported after it
(`fault`). Objects and arrays may nest 127 deep.

Numbers keep the integer kinds of the value model: digits without point or exponent that fit
an unsigned 64-bit word stay integers, as do negative ones down to `-2^63`; `-0` and everything
else become floats. A float is the 64-bit significand of its first nineteen or so digits,
scaled by a table power of ten in binary64 arithmetic, so long inputs may differ from the
nearest float in the last place.
-/

namespace ResilientAgent

/-- A fault in JSON text, or a value of the wrong shape, with the place where reading stopped
(line 0 when no place applies). -/
structure JsonError where
  reason : String
  line : Nat := 0
  column : Nat := 0
  /-- Whether the fault came from the input or output underneath, not from the JSON. -/
  fromIo : Bool := false
  deriving Repr, Inhabited, DecidableEq

def JsonError.message (e : JsonError) : String :=
  if e.line == 0 then e.reason
  else e.reason ++ " at line " ++ toString e.line ++ " column " ++ toString e.column

namespace JsonReader

abbrev Reader := StateT Nat (ReaderT ByteArray (Except JsonError))

/-- Line and byte column of index `i`: the column counts the bytes of its line before `i`. -/
def placeOf (bytes : ByteArray) (i : Nat) : Nat × Nat :=
  let before := (bytes.extract 0 i).toList
  let lineStart := before.length - ((before.reverse.takeWhile (· != 10)).length)
  (1 + (before.filter (· == 10)).length, i - lineStart)

/-- A fault placed at the current index. -/
def fault {α : Type} (reason : String) : Reader α := do
  let i ← get
  let bytes ← read
  let (line, column) := placeOf bytes i
  throw { reason, line, column }

/-- A fault placed one byte past the current index. -/
def peekFault {α : Type} (reason : String) : Reader α := do
  let i ← get
  let bytes ← read
  let (line, column) := placeOf bytes (min bytes.size (i + 1))
  throw { reason, line, column }

/-- Places a fault that has no place yet at the current index. -/
def placed {α : Type} (r : Reader α) : Reader α := do
  let i ← get
  let bytes ← read
  match (r.run i).run bytes with
  | .ok (a, j) => set j; pure a
  | .error e =>
    if e.line == 0 then
      let (line, column) := placeOf bytes i
      throw { e with line, column }
    else throw e

/-- The next byte, unread. -/
def peek? : Reader (Option UInt8) := do
  let i ← get
  let bytes ← read
  pure bytes[i]?

def eat : Reader Unit := modify (· + 1)

/-- Reads the next byte. -/
def next? : Reader (Option UInt8) := do
  let b ← peek?
  if b.isSome then eat
  pure b

def isBlank (b : UInt8) : Bool := b == 32 || b == 10 || b == 9 || b == 13

/-- Skips whitespace and returns the next byte, unread. -/
def skipBlank : Reader (Option UInt8) := do
  let bytes ← read
  let i ← get
  let rest := (bytes.extract i bytes.size).toList
  let n := (rest.takeWhile isBlank).length
  set (i + n)
  pure bytes[i + n]?

/-- Reads the bytes `expected` of a keyword whose first byte was read. -/
def keyword (expected : List UInt8) : Reader Unit :=
  expected.forM fun b => do
    match ← next? with
    | none => fault "EOF while parsing a value"
    | some c => if c != b then fault "expected ident" else pure ()

def digitOf? (b : UInt8) : Option Nat :=
  if 48 ≤ b && b ≤ 57 then some (b.toNat - 48) else none

/-- The value of a hex digit byte. -/
def hexOf? (b : UInt8) : Option Nat :=
  if 48 ≤ b && b ≤ 57 then some (b.toNat - 48)
  else if 97 ≤ b && b ≤ 102 then some (b.toNat - 87)
  else if 65 ≤ b && b ≤ 70 then some (b.toNat - 55)
  else none

/-- Reads digits into nothing. -/
def skipDigits : Reader Unit := do
  let bytes ← read
  let i ← get
  let rest := (bytes.extract i bytes.size).toList
  set (i + (rest.takeWhile fun b => (digitOf? b).isSome).length)

def wordMax : Nat := Nat.pow 2 64 - 1

/-- A float from significand and decimal exponent, or the out-of-range fault. -/
def floatOf (positive : Bool) (significand : Nat) (exponent : Int) : Reader Float :=
  match Numeral.scaleBySteps significand exponent with
  | some f => pure (if positive then f else -f)
  | none => fault "number out of range"

/-- Reads an exponent after `e`/`E` (the letter unread) and finishes the float. -/
def exponentPart (positive : Bool) (significand : Nat) (start : Int) : Reader Float := do
  eat
  let negativeExp ← do
    match ← peek? with
    | some 43 => eat; pure false
    | some 45 => eat; pure true
    | _ => pure false
  match ← next? with
  | none => fault "EOF while parsing a value"
  | some b =>
    match digitOf? b with
    | none => fault "invalid number"
    | some d =>
      let bytes ← read
      let i ← get
      let ds := ((bytes.extract i bytes.size).toList.takeWhile fun c => (digitOf? c).isSome).filterMap digitOf?
      -- the first digit that takes the exponent past 2^31 - 1 ends the exponent
      let rec go (exp : Nat) (rest : List Nat) (used : Nat) : Option Nat × Nat :=
        match rest with
        | [] => (some exp, used)
        | d :: more =>
          if exp * 10 + d > Nat.pow 2 31 - 1 then (none, used + 1) else go (exp * 10 + d) more (used + 1)
      let (value, used) := go d ds 0
      set (i + used)
      match value with
      | some exp =>
        let final := if negativeExp then start - exp else start + exp
        let final := max (min final (Int.ofNat (Nat.pow 2 31) - 1)) (-(Int.ofNat (Nat.pow 2 31)))
        floatOf positive significand final
      | none =>
        if significand != 0 && !negativeExp then fault "number out of range"
        else
          skipDigits
          pure (if positive then 0.0 else -0.0)

/-- Reads a fraction after the point (the point unread) and any exponent. -/
def fractionPart (positive : Bool) (significand : Nat) (start : Int) : Reader Float := do
  eat
  let bytes ← read
  let i ← get
  let ds := ((bytes.extract i bytes.size).toList.takeWhile fun c => (digitOf? c).isSome).filterMap digitOf?
  -- digits are taken while the significand stays a 64-bit word
  let rec go (sig : Nat) (count : Nat) (rest : List Nat) : Nat × Nat × Bool :=
    match rest with
    | [] => (sig, count, false)
    | d :: more => if sig * 10 + d > wordMax then (sig, count, true) else go (sig * 10 + d) (count + 1) more
  let (sig, count, overflowed) := go significand 0 ds
  if overflowed then
    set (i + ds.length)
    match ← peek? with
    | some 101 | some 69 => exponentPart positive sig (start - count)
    | _ => floatOf positive sig (start - count)
  else
    set (i + count)
    if count == 0 then
      match ← peek? with
      | some _ => peekFault "invalid number"
      | none => peekFault "EOF while parsing a value"
    else
      match ← peek? with
      | some 101 | some 69 => exponentPart positive sig (start - count)
      | _ => floatOf positive sig (start - count)

/-- Reads a number whose sign, if any, was read. -/
def numberValue (positive : Bool) : Reader Number := do
  match ← next? with
  | none => fault "EOF while parsing a value"
  | some b =>
    match digitOf? b with
    | none => fault "invalid number"
    | some first =>
      let bytes ← read
      let i ← get
      let (significand, tooLong) ← do
        if first == 0 then
          match bytes[i]? >>= digitOf? with
          | some _ => peekFault "invalid number"
          | none => pure (0, false)
        else
          let ds := ((bytes.extract i bytes.size).toList.takeWhile fun c => (digitOf? c).isSome).filterMap digitOf?
          let rec go (sig : Nat) (count : Nat) (rest : List Nat) : Nat × Nat × Bool :=
            match rest with
            | [] => (sig, count, false)
            | d :: more => if sig * 10 + d > wordMax then (sig, count, true) else go (sig * 10 + d) (count + 1) more
          let (sig, count, overflowed) := go first 0 ds
          set (i + count)
          pure (sig, overflowed)
      if tooLong then
        -- the remaining whole digits only raise the exponent
        let i ← get
        let extra := ((bytes.extract i bytes.size).toList.takeWhile fun c => (digitOf? c).isSome).length
        set (i + extra)
        match ← peek? with
        | some 46 => return .float (← fractionPart positive significand extra)
        | some 101 | some 69 => return .float (← exponentPart positive significand extra)
        | _ => return .float (← floatOf positive significand extra)
      match ← peek? with
      | some 46 => return .float (← fractionPart positive significand 0)
      | some 101 | some 69 => return .float (← exponentPart positive significand 0)
      | _ =>
        if positive then return .int significand
        else if significand == 0 || significand > Nat.pow 2 63 then
          return .float (-(Numeral.ofBits64 (Numeral.Format.binary64.roundRatio false significand 1)))
        else return .int (-(significand : Int))

/-- Reads four hex digits of a `\u` escape. -/
def hexEscape : Reader Nat := do
  let bytes ← read
  let i ← get
  if i + 4 ≤ bytes.size then
    set (i + 4)
    let ds := [i, i + 1, i + 2, i + 3].map fun j => (bytes[j]?).bind hexOf?
    match ds with
    | [some a, some b, some c, some d] => pure (((a * 16 + b) * 16 + c) * 16 + d)
    | _ => fault "invalid escape"
  else
    set bytes.size
    fault "EOF while parsing a string"

/-- Reads the escape after a backslash and appends what it stands for. -/
def escape (acc : List Char) : Reader (List Char) := do
  match ← next? with
  | none => fault "EOF while parsing a string"
  | some 34 => pure (acc ++ ['"'])
  | some 92 => pure (acc ++ ['\\'])
  | some 47 => pure (acc ++ ['/'])
  | some 98 => pure (acc ++ [Char.ofNat 8])
  | some 102 => pure (acc ++ [Char.ofNat 12])
  | some 110 => pure (acc ++ ['\n'])
  | some 114 => pure (acc ++ ['\r'])
  | some 116 => pure (acc ++ ['\t'])
  | some 117 =>
    let n ← hexEscape
    if 0xDC00 ≤ n && n ≤ 0xDFFF then fault "lone leading surrogate in hex escape"
    else if n < 0xD800 || n > 0xDBFF then pure (acc ++ [Char.ofNat n])
    else
      match ← peek? with
      | none => fault "EOF while parsing a string"
      | some 92 =>
        eat
        match ← peek? with
        | none => fault "EOF while parsing a string"
        | some 117 =>
          eat
          let n2 ← hexEscape
          if n2 < 0xDC00 || n2 > 0xDFFF then fault "lone leading surrogate in hex escape"
          else pure (acc ++ [Char.ofNat (((n - 0xD800) * 1024 + (n2 - 0xDC00)) + 0x10000)])
        | some _ => eat; fault "unexpected end of hex escape"
      | some _ => eat; fault "unexpected end of hex escape"
  | some _ => fault "invalid escape"

/-- Reads the rest of a string whose opening quote was read. Each round consumes at least one
byte, so `fuel` bytes of input bound the rounds. -/
def stringBody : Nat → List Char → Reader String
  | 0, _ => fault "EOF while parsing a string"
  | fuel + 1, acc => do
    let bytes ← read
    let i ← get
    let rest := (bytes.extract i bytes.size).toList
    let plain := rest.takeWhile fun b => b != 34 && b != 92 && b ≥ 32
    set (i + plain.length)
    let acc := acc ++ ((String.fromUTF8? (ByteArray.mk plain.toArray)).getD "").toList
    match ← peek? with
    | none => fault "EOF while parsing a string"
    | some 34 => eat; pure (String.ofList acc)
    | some 92 =>
      eat
      let acc ← escape acc
      stringBody fuel acc
    | some _ => eat; fault "control character (\\u0000-\\u001F) found while parsing a string"

def stringValue : Reader String := do
  let bytes ← read
  stringBody (bytes.size + 1) []

/-- Reads one value; `depth` is the nesting still allowed. -/
def value : Nat → Reader Json
  | 0 => peekFault "recursion limit exceeded"
  | depth + 1 => do
    match ← skipBlank with
    | none => peekFault "EOF while parsing a value"
    | some 110 => eat; keyword [117, 108, 108]; pure .null
    | some 116 => eat; keyword [114, 117, 101]; pure (.bool true)
    | some 102 => eat; keyword [97, 108, 115, 101]; pure (.bool false)
    | some 45 => eat; pure (.number (← numberValue false))
    | some 34 => eat; pure (.string (← stringValue))
    | some 91 =>
      if depth == 0 then peekFault "recursion limit exceeded"
      else
        eat
        let bytes ← read
        let items ← arrayItems depth (bytes.size + 1) true []
        match ← skipBlank with
        | some 93 => eat; pure (.array items)
        | _ => peekFault "EOF while parsing a list"
    | some 123 =>
      if depth == 0 then peekFault "recursion limit exceeded"
      else
        eat
        let bytes ← read
        let fields ← objectMembers depth (bytes.size + 1) true []
        match ← skipBlank with
        | some 125 => eat; pure (Json.obj fields)
        | _ => peekFault "EOF while parsing an object"
    | some b =>
      if (digitOf? b).isSome then pure (.number (← numberValue true))
      else peekFault "expected value"
where
  /-- Items of an array up to, not including, its closing bracket. -/
  arrayItems (depth : Nat) : Nat → Bool → List Json → Reader (List Json)
    | 0, _, acc => pure acc
    | fuel + 1, first, acc => do
      match ← skipBlank with
      | none => peekFault "EOF while parsing a list"
      | some 93 => pure acc
      | some b =>
        if first then
          let v ← value depth
          arrayItems depth fuel false (acc ++ [v])
        else if b == 44 then
          eat
          match ← skipBlank with
          | some 93 => peekFault "trailing comma"
          | none => peekFault "EOF while parsing a value"
          | some _ =>
            let v ← value depth
            arrayItems depth fuel false (acc ++ [v])
        else peekFault "expected `,` or `]`"
  /-- Members of an object up to, not including, its closing brace. -/
  objectMembers (depth : Nat) : Nat → Bool → List (String × Json) → Reader (List (String × Json))
    | 0, _, acc => pure acc
    | fuel + 1, first, acc => do
      -- `none` when the object closes, else the byte that should open a key
      let start : Option (Option UInt8) ← do
        match ← skipBlank with
        | none => peekFault "EOF while parsing an object"
        | some 125 => pure none
        | some b =>
          if first then pure (some (some b))
          else if b == 44 then
            eat
            pure (some (← skipBlank))
          else peekFault "expected `,` or `\x7d`"
      match start with
      | none => pure acc
      | some none => peekFault "EOF while parsing a value"
      | some (some 34) =>
        eat
        let key ← stringValue
        match ← skipBlank with
        | some 58 => eat
        | some _ => peekFault "expected `:`"
        | none => peekFault "EOF while parsing an object"
        let v ← value depth
        objectMembers depth fuel false (acc ++ [(key, v)])
      | some (some 125) => peekFault "trailing comma"
      | some _ => peekFault "key must be a string"

/-! ## Passing over a value

A member that a record does not know is passed over rather than read. Passing over checks less
than reading: a `\u` escape may name any code unit, a number's size is not checked, nesting
has no limit, and a comma followed by a closing bracket or brace is a value or a key that is
not there rather than a trailing comma. -/

/-- Passes over the rest of a string whose opening quote was read. -/
def passString : Nat → Reader Unit
  | 0 => fault "EOF while parsing a string"
  | fuel + 1 => do
    let bytes ← read
    let i ← get
    let plain := ((bytes.extract i bytes.size).toList.takeWhile fun b => b != 34 && b != 92 && b ≥ 32).length
    set (i + plain)
    match ← peek? with
    | none => fault "EOF while parsing a string"
    | some 34 => eat
    | some 92 =>
      eat
      match ← next? with
      | none => fault "EOF while parsing a string"
      | some 117 => let _ ← hexEscape; passString fuel
      | some b =>
        if [34, 92, 47, 98, 102, 110, 114, 116].contains b then passString fuel
        else fault "invalid escape"
    | some _ => fault "control character (\\u0000-\\u001F) found while parsing a string"

/-- Passes over an exponent, its letter unread. -/
def passExponent : Reader Unit := do
  eat
  match ← peek? with
  | some 43 | some 45 => eat
  | _ => pure ()
  match ← next? with
  | some b => if (digitOf? b).isSome then skipDigits else fault "invalid number"
  | none => fault "invalid number"

/-- Passes over a number whose sign, if any, was read: its shape is checked, its size is not. -/
def passNumber : Reader Unit := do
  match ← next? with
  | some 48 => if ((← peek?).bind digitOf?).isSome then peekFault "invalid number" else pure ()
  | some b => if (digitOf? b).isSome then skipDigits else fault "invalid number"
  | none => fault "invalid number"
  match ← peek? with
  | some 46 =>
    eat
    let i ← get
    skipDigits
    if (← get) == i then peekFault "invalid number"
    match ← peek? with
    | some 101 | some 69 => passExponent
    | _ => pure ()
  | some 101 | some 69 => passExponent
  | _ => pure ()

/-- Passes over the rest of a value. `open` holds the arrays and objects open around the place,
innermost first (`true` for an object); `step` is `none` where a value is due, and `some first`
after a value or an opening bracket in the innermost one, `first` when nothing was read in it
yet. Every round but one in two reads a byte, so twice the bytes bound the rounds. -/
def passRest : Nat → List Bool → Option Bool → Reader Unit
  | 0, _, _ => pure ()
  | fuel + 1, stack, none => do
    match ← skipBlank with
    | none => peekFault "EOF while parsing a value"
    | some 110 => eat; keyword [117, 108, 108]; passRest fuel stack (some false)
    | some 116 => eat; keyword [114, 117, 101]; passRest fuel stack (some false)
    | some 102 => eat; keyword [97, 108, 115, 101]; passRest fuel stack (some false)
    | some 45 => eat; passNumber; passRest fuel stack (some false)
    | some 34 => eat; passString ((← read).size + 1); passRest fuel stack (some false)
    | some 91 => eat; passRest fuel (false :: stack) (some true)
    | some 123 => eat; passRest fuel (true :: stack) (some true)
    | some b =>
      if (digitOf? b).isSome then do passNumber; passRest fuel stack (some false)
      else peekFault "expected value"
  | _ + 1, [], some _ => pure ()
  | fuel + 1, isObject :: outer, some first => do
    let entry : Reader Unit := do
      if isObject then
        match ← skipBlank with
        | some 34 => eat; passString ((← read).size + 1)
        | some _ => peekFault "key must be a string"
        | none => peekFault "EOF while parsing an object"
        match ← skipBlank with
        | some 58 => eat
        | some _ => peekFault "expected `:`"
        | none => peekFault "EOF while parsing an object"
      passRest fuel (isObject :: outer) none
    match ← skipBlank with
    | none => peekFault (if isObject then "EOF while parsing an object" else "EOF while parsing a list")
    | some b =>
      if b == (if isObject then 125 else 93) then eat; passRest fuel outer (some false)
      else if first then entry
      else if b == 44 then eat; entry
      else peekFault (if isObject then "expected `,` or `\x7d`" else "expected `,` or `]`")

def passValue : Reader Unit := do
  passRest (2 * (← read).size + 2) [] none

/-- Reads a whole text as one value, allowing only whitespace after it. -/
def document (text : String) : Except JsonError Json :=
  let run : Reader Json := do
    let v ← value 128
    match ← skipBlank with
    | none => pure v
    | some _ => peekFault "trailing characters"
  ((run.run 0).run text.toUTF8).map (·.1)

end JsonReader

def Json.parse (text : String) : Except JsonError Json := JsonReader.document text

end ResilientAgent
