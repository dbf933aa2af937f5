/-!
# Reading UTF-8

A character is one to four bytes: a lead byte saying how many follow, then that many
continuation bytes. Not every continuation is allowed after every lead: the second byte is
narrowed so that no character is written longer than it needs, no surrogate is written and
nothing above `U+10FFFF` is written.

Where the bytes go wrong, the fault is the longest start of a sequence that could still have
been a character: a byte that leads nothing is a fault of length one, a lead followed by a
byte out of range is a fault of the bytes before that byte. Bytes that end inside a sequence
are a fault of their own kind. Reading with replacement puts one replacement character for
each fault; strict reading stops at the first fault and says how many bytes read well before
it.
-/

namespace ResilientAgent.Text

/-- Checks the bytes after a lead against the ranges allowed for them, counting from `k`: the
place of the first byte out of range, `none` inside if the bytes end first, or nothing if all
fit. -/
def continuationFault : List (Nat × Nat) → List UInt8 → Nat → Option (Option Nat)
  | [], _, _ => none
  | _ :: _, [], _ => some none
  | (lo, hi) :: more, b :: bs, k =>
    if lo ≤ b.toNat && b.toNat ≤ hi then continuationFault more bs (k + 1) else some (some k)

/-- The number of bytes a lead byte starts, with the range its first continuation byte must
lie in; zero for a byte that leads nothing. -/
def leadShape (v : Nat) : Nat × Nat × Nat :=
  if 0xC2 ≤ v && v ≤ 0xDF then (2, 0x80, 0xBF)
  else if v == 0xE0 then (3, 0xA0, 0xBF)
  else if v == 0xED then (3, 0x80, 0x9F)
  else if 0xE1 ≤ v && v ≤ 0xEF then (3, 0x80, 0xBF)
  else if v == 0xF0 then (4, 0x90, 0xBF)
  else if v == 0xF4 then (4, 0x80, 0x8F)
  else if 0xF1 ≤ v && v ≤ 0xF3 then (4, 0x80, 0xBF)
  else (0, 0, 0)

/-- What the bytes start with: a character and its length in bytes, or a fault, given as the
number of bytes it spans (`some k`) or as `none` when the bytes end inside a sequence. -/
def utf8Next : List UInt8 → Except (Option Nat) (Char × Nat)
  | [] => .error none
  | b :: rest =>
    let v := b.toNat
    if v < 0x80 then .ok (Char.ofNat v, 1)
    else
      let (width, lo, hi) := leadShape v
      if width == 0 then .error (some 1)
      else
        let bounds := (lo, hi) :: List.replicate (width - 2) (0x80, 0xBF)
        match continuationFault bounds rest 1 with
        | some fault => .error fault
        | none =>
          let lead := v % Nat.pow 2 (7 - width)
          let value := (rest.take (width - 1)).foldl (fun acc c => acc * 64 + c.toNat % 64) lead
          .ok (Char.ofNat value, width)

/-- Bytes read as text, one replacement character standing for each fault. -/
def utf8Lossy (bytes : List UInt8) : String :=
  let rec go : Nat → List UInt8 → List Char
    | 0, _ => []
    | _ + 1, [] => []
    | fuel + 1, bs =>
      match utf8Next bs with
      | .ok (c, n) => c :: go fuel (bs.drop n)
      | .error (some k) => Char.ofNat 0xFFFD :: go fuel (bs.drop k)
      | .error none => [Char.ofNat 0xFFFD]
  String.ofList (go (bytes.length + 1) bytes)

/-- Where strict reading stopped: the bytes that read well before the fault and the fault's
length, `none` when the bytes end inside a sequence. -/
structure Utf8Fault where
  validUpTo : Nat
  errorLength : Option Nat
  deriving DecidableEq, Inhabited

/-- The fault as a diagnostic shows it. -/
def Utf8Fault.debugText (f : Utf8Fault) : String :=
  "Utf8Error \x7b valid_up_to: " ++ toString f.validUpTo ++ ", error_len: " ++
    (match f.errorLength with
      | some k => "Some(" ++ toString k ++ ")"
      | none => "None") ++ " \x7d"

/-- Bytes read as text, or the first fault. -/
def utf8Strict (bytes : List UInt8) : Except Utf8Fault String :=
  let rec go : Nat → List UInt8 → Nat → List Char → Except Utf8Fault (List Char)
    | 0, _, _, acc => .ok acc.reverse
    | _ + 1, [], _, acc => .ok acc.reverse
    | fuel + 1, bs, done, acc =>
      match utf8Next bs with
      | .ok (c, n) => go fuel (bs.drop n) (done + n) (c :: acc)
      | .error fault => .error ⟨done, fault⟩
  (go (bytes.length + 1) bytes 0 []).map String.ofList

end ResilientAgent.Text
