import ResilientAgent.Text.Quoted

/-!
# Listening addresses

The API listens on the address its settings give: an IPv4 address and a port (`a.b.c.d:p`) or
a bracketed IPv6 address and a port (`[h:h::h]:p`, with an optional `%scope`). An IPv4
address has four decimal parts below 256 with no leading zero; an IPv6 address has eight
groups of up to four hex digits, a run of zero groups written `::` once, and perhaps an IPv4
address as its last two groups. A port is decimal below 65536.

Text that is no such address is split at its last `:` into a host and a port, where the port
may carry a `+`. The host is then looked up: `localhost` and the numeric forms the system
accepts (parts in decimal, octal after `0` or hex after `0x`, the last part filling the
remaining bytes) are found, any other name is not.

Any IPv4 address can be listened on, also one written inside IPv6; of the other IPv6
addresses only the unspecified address and the loopback can, any other is not an address of
this machine.
-/

namespace ResilientAgent

namespace Daemon

def digitValue (radix : Nat) (c : Char) : Option Nat :=
  let v := if c.isDigit then some (c.toNat - '0'.toNat)
    else if 'a' ≤ c && c ≤ 'z' then some (c.toNat - 'a'.toNat + 10)
    else if 'A' ≤ c && c ≤ 'Z' then some (c.toNat - 'A'.toNat + 10)
    else none
  v.bind fun d => if d < radix then some d else none

/-- Reads a number at the start of the text: its digits in base `radix`, at most `maxDigits` of
them when given, below `bound`; a leading zero only alone unless `zeroPrefix`. The number and
the rest of the text. -/
def readNumber (radix : Nat) (maxDigits : Option Nat) (zeroPrefix : Bool) (bound : Nat)
    (cs : List Char) : Option (Nat × List Char) :=
  let digits := cs.takeWhile fun c => (digitValue radix c).isSome
  let rest := cs.drop digits.length
  let value := digits.foldl (fun acc c => acc * radix + ((digitValue radix c).getD 0)) 0
  if digits.isEmpty then none
  else if maxDigits.any (digits.length > ·) then none
  else if value ≥ bound then none
  else if !zeroPrefix && digits.head? == some '0' && digits.length > 1 then none
  else some (value, rest)

def readIpv4 (cs : List Char) : Option (List Nat × List Char) := do
  let (a, cs) ← readNumber 10 (some 3) false 256 cs
  let cs ← match cs with | '.' :: cs => some cs | _ => none
  let (b, cs) ← readNumber 10 (some 3) false 256 cs
  let cs ← match cs with | '.' :: cs => some cs | _ => none
  let (c, cs) ← readNumber 10 (some 3) false 256 cs
  let cs ← match cs with | '.' :: cs => some cs | _ => none
  let (d, cs) ← readNumber 10 (some 3) false 256 cs
  return ([a, b, c, d], cs)

/-- Reads up to `limit` colon-separated groups of an IPv6 address, the last two of which may be
an IPv4 address: the groups, whether they ended in an IPv4 address, and the rest. -/
def readGroups (limit : Nat) : Nat → List Nat → List Char → List Nat × Bool × List Char
  | 0, acc, cs => (acc, false, cs)
  | fuel + 1, acc, cs =>
    let i := acc.length
    if i ≥ limit then (acc, false, cs)
    else
      let separated : Option (List Char) :=
        if i == 0 then some cs else match cs with
          | ':' :: rest => some rest
          | _ => none
      let v4 : Option (List Nat × List Char) :=
        if i + 1 < limit then separated.bind readIpv4 else none
      match v4 with
      | some (parts, rest) =>
        let hi := (parts.getD 0 0) * 256 + parts.getD 1 0
        let lo := (parts.getD 2 0) * 256 + parts.getD 3 0
        (acc ++ [hi, lo], true, rest)
      | none =>
        match separated.bind (readNumber 16 (some 4) true 65536) with
        | some (g, rest) => readGroups limit fuel (acc ++ [g]) rest
        | none => (acc, false, cs)

def readIpv6 (cs : List Char) : Option (List Nat × List Char) := do
  let (head, headV4, cs) := readGroups 8 9 [] cs
  if head.length == 8 then return (head, cs)
  if headV4 then none
  let cs ← match cs with | ':' :: ':' :: cs => some cs | _ => none
  let (tail, _, cs) := readGroups (8 - (head.length + 1)) 9 [] cs
  return (head ++ List.replicate (8 - head.length - tail.length) 0 ++ tail, cs)

/-- An address of a machine. -/
inductive IpAddress where
  | v4 (parts : List Nat)
  | v6 (groups : List Nat)
  deriving DecidableEq, Inhabited

def readPort (cs : List Char) : Option (Nat × List Char) :=
  match cs with
  | ':' :: rest => readNumber 10 none true 65536 rest
  | _ => none

def socketAddress? (text : String) : Option (IpAddress × Nat) :=
  let cs := text.toList
  let v4 : Option (IpAddress × Nat) := do
    let (parts, rest) ← readIpv4 cs
    let (port, rest) ← readPort rest
    if rest.isEmpty then some (.v4 parts, port) else none
  let v6 : Option (IpAddress × Nat) := do
    let rest ← match cs with | '[' :: rest => some rest | _ => none
    let (groups, rest) ← readIpv6 rest
    let rest := match rest with
      | '%' :: more =>
        match readNumber 10 none true (Nat.pow 2 32) more with
        | some (_, after) => after
        | none => rest
      | _ => rest
    let rest ← match rest with | ']' :: rest => some rest | _ => none
    let (port, rest) ← readPort rest
    if rest.isEmpty then some (.v6 groups, port) else none
  v4.orElse fun _ => v6

/-- Reads a port as the system's number reader does: decimal digits after an optional `+`,
below 65536. -/
def portValue? (text : String) : Option Nat :=
  let digits := match text.toList with
    | '+' :: rest => rest
    | cs => cs
  if digits.isEmpty || !digits.all Char.isDigit then none
  else
    let value := digits.foldl (fun acc c => acc * 10 + (c.toNat - '0'.toNat)) 0
    if value < 65536 then some value else none

/-- A number in the system's host notation: hex after `0x`, octal after `0`, decimal
otherwise. -/
def hostNumber? (part : String) : Option Nat :=
  let cs := part.toList
  let (radix, digits) := match cs with
    | '0' :: 'x' :: rest | '0' :: 'X' :: rest => (16, rest)
    | '0' :: rest@(_ :: _) => (8, rest)
    | _ => (10, cs)
  if digits.isEmpty && radix != 16 then none
  else if !digits.all fun c => (digitValue radix c).isSome then none
  else some (digits.foldl (fun acc c => acc * radix + ((digitValue radix c).getD 0)) 0)

def numericHost? (host : String) : Option IpAddress := do
  let parts ← (host.splitOn ".").mapM hostNumber?
  let bytes (n width : Nat) : List Nat := (List.range width).reverse.map fun k => n / Nat.pow 256 k % 256
  match parts with
  | [a] => if a < Nat.pow 2 32 then some (.v4 (bytes a 4)) else none
  | [a, b] => if a < 256 && b < Nat.pow 2 24 then some (.v4 (a :: bytes b 3)) else none
  | [a, b, c] => if a < 256 && b < 256 && c < Nat.pow 2 16 then some (.v4 ([a, b] ++ bytes c 2)) else none
  | [a, b, c, d] =>
    if a < 256 && b < 256 && c < 256 && d < 256 then some (.v4 [a, b, c, d]) else none
  | _ => none

def lookupHost (host : String) : Option IpAddress :=
  if host.toLower == "localhost" then some (.v4 [127, 0, 0, 1])
  else (numericHost? host).orElse fun _ =>
    match readIpv6 host.toList with
    | some (groups, []) => some (.v6 groups)
    | _ => none

/-- Whether this machine can listen on an address: any IPv4 address, also one inside IPv6,
and otherwise the unspecified IPv6 address or the IPv6 loopback. -/
def IpAddress.local : IpAddress → Bool
  | .v4 _ => true
  | .v6 groups =>
    groups == List.replicate 8 0 || groups == List.replicate 7 0 ++ [1] ||
      groups.take 6 == List.replicate 5 0 ++ [65535]

/-- Why the API cannot listen where its settings say. -/
inductive BindFailure where
  /-- No `:` separates a host from a port. -/
  | noPort
  /-- The port does not read. -/
  | badPort
  /-- The host is not found. -/
  | unknownHost
  /-- The address is not one of this machine. -/
  | notLocal
  deriving DecidableEq, Inhabited

def BindFailure.debugText : BindFailure → String
  | .noPort => "Error \x7b kind: InvalidInput, message: " ++ Text.quoted "invalid socket address" ++ " \x7d"
  | .badPort => "Error \x7b kind: InvalidInput, message: " ++ Text.quoted "invalid port value" ++ " \x7d"
  | .unknownHost =>
    "Custom \x7b kind: Uncategorized, error: " ++
      Text.quoted "failed to lookup address information: Name or service not known" ++ " \x7d"
  | .notLocal =>
    "Os \x7b code: 99, kind: AddrNotAvailable, message: " ++
      Text.quoted "Cannot assign requested address" ++ " \x7d"

def bindAddress (text : String) : Except BindFailure Unit := do
  let address ← match socketAddress? text with
    | some (address, _) => pure address
    | none =>
      let parts := text.splitOn ":"
      if parts.length < 2 then throw .noPort
      let port := parts.getLast?.getD ""
      let host := ":".intercalate parts.dropLast
      if (portValue? port).isNone then throw .badPort
      match lookupHost host with
      | some address => pure address
      | none => throw .unknownHost
  if address.local then pure () else throw .notLocal

end Daemon

end ResilientAgent
