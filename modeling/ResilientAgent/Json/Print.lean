import ResilientAgent.Json.Value

/-!
# Writing JSON

The compact text of a value: no blanks, members in list order, numbers in the data form of
`Numeral` (a float that is NaN or infinite is written `null`). Strings escape the quote, the
backslash and every control character below U+0020: the five with a short escape (`\b`, `\t`,
`\n`, `\f`, `\r`) use it and the others `\u00xx` with lower-case hex; everything else, DEL and
non-ASCII included, is written as is.
-/

namespace ResilientAgent

def hexDigit (n : Nat) : Char :=
  if n < 10 then Char.ofNat ('0'.toNat + n) else Char.ofNat ('a'.toNat + n - 10)

/-- The escaped form of one character inside a JSON string. -/
def escapeChar (c : Char) : String :=
  match c with
  | '"' => "\\\""
  | '\\' => "\\\\"
  | '\n' => "\\n"
  | '\t' => "\\t"
  | '\r' => "\\r"
  | c =>
    if c.toNat == 8 then "\\b"
    else if c.toNat == 12 then "\\f"
    else if c.toNat < 0x20 then
      "\\u00" ++ String.singleton (hexDigit (c.toNat / 16)) ++ String.singleton (hexDigit (c.toNat % 16))
    else String.singleton c

def quoteJson (s : String) : String :=
  "\"" ++ String.join (s.toList.map escapeChar) ++ "\""

def Number.render : Number → String
  | .int n => toString n
  | .float x => (Numeral.floatDataText? x).getD "null"

/-- The compact text of a value. -/
def Json.render : Json → String
  | .null => "null"
  | .bool b => if b then "true" else "false"
  | .number n => n.render
  | .string s => quoteJson s
  | .array items => "[" ++ ",".intercalate (items.attach.map fun ⟨x, _⟩ => Json.render x) ++ "]"
  | .object fields =>
    "\x7b" ++ ",".intercalate (fields.attach.map fun ⟨kv, _⟩ => quoteJson kv.1 ++ ":" ++ Json.render kv.2) ++ "\x7d"
termination_by j => sizeOf j
decreasing_by
  · exact Json.sizeOf_lt_of_mem_array ‹_›
  · exact Json.sizeOf_lt_of_mem_object ‹_›

end ResilientAgent
