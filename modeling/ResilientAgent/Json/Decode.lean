import ResilientAgent.Json.Node
import ResilientAgent.Text.Quoted

/-!
# Typed decoding

A `Decoder α` reads an `α` out of a node or names the first fault it meets, in reading order.
The faults read as the runtime's data format words them:

* `invalid type: <what was found>, expected <what was wanted>` when the shape is wrong;
* `invalid value: <found>, expected <wanted>` when an integer does not fit;
* `missing field`, `duplicate field`, `unknown variant` for records and enumerations;
* the fault of the text itself when the text is not JSON.

What was found is written `null`, ``boolean `true` ``, ``integer `5` ``,
``floating point `1.5` ``, `string "x"` (the text quoted with every character shown),
`sequence` or `map`.

A record decoder walks the members in order: a member it knows is decoded, and an unknown one
is passed over, its text having been checked only as far as passing over it checks (see the
reader of nodes); a key seen twice is a fault; after the last member, each required key that
did not appear is missing, in the record's own order.
-/

namespace ResilientAgent

/-- What a decoder found instead of what it wanted. -/
inductive Unexpected where
  | null
  | bool (b : Bool)
  | unsigned (n : Nat)
  | signed (n : Int)
  | float (x : Float) (wording : FloatWording)
  | string (s : String)
  | sequence
  | map

/-- The words for what was found. -/
def Unexpected.describe : Unexpected → String
  | .null => "null"
  | .bool b => "boolean `" ++ toString b ++ "`"
  | .unsigned n => "integer `" ++ toString n ++ "`"
  | .signed n => "integer `" ++ toString n ++ "`"
  | .float x .shortest =>
    "floating point `" ++ ((Numeral.floatDataText? x).getD (Numeral.floatPlainText x)) ++ "`"
  | .float x .positional => "floating point `" ++ Numeral.floatPointedText x ++ "`"
  | .string s => "string " ++ Text.quoted s
  | .sequence => "sequence"
  | .map => "map"

/-- What a value is, in the words of a fault, a float spelled as `wording` says. -/
def Json.unexpected (wording : FloatWording) : Json → Unexpected
  | .null => .null
  | .bool b => .bool b
  | .number (.int n) => if n ≥ 0 then .unsigned n.toNat else .signed n
  | .number (.float x) => .float x wording
  | .string s => .string s
  | .array _ => .sequence
  | .object _ => .map

namespace JsonError

def custom (reason : String) : JsonError := { reason }

def invalidType (found : Unexpected) (expected : String) : JsonError :=
  custom ("invalid type: " ++ found.describe ++ ", expected " ++ expected)

def invalidValue (found : Unexpected) (expected : String) : JsonError :=
  custom ("invalid value: " ++ found.describe ++ ", expected " ++ expected)

def missingField (name : String) : JsonError := custom ("missing field `" ++ name ++ "`")

def duplicateField (name : String) : JsonError := custom ("duplicate field `" ++ name ++ "`")

/-- Names in backquotes: `` `a` ``, `` `a` or `b` ``, `` one of `a`, `b`, `c` ``. -/
def oneOf (names : List String) : String :=
  let quote (n : String) := "`" ++ n ++ "`"
  match names with
  | [a] => quote a
  | [a, b] => quote a ++ " or " ++ quote b
  | _ => "one of " ++ ", ".intercalate (names.map quote)

def unknownVariant (name : String) (known : List String) : JsonError :=
  if known.isEmpty then custom ("unknown variant `" ++ name ++ "`, there are no variants")
  else custom ("unknown variant `" ++ name ++ "`, expected " ++ oneOf known)

def placedAt (e : JsonError) : Option Place → JsonError
  | some p => if e.line == 0 then { e with line := p.line, column := p.column } else e
  | none => e

end JsonError

abbrev Decoder (α : Type) := Node → Except JsonError α

/-- What a reader does with the items of an array past the last field of the record it is
read as: a JSON reader refuses them, a TOML reader passes over them. -/
inductive Surplus where
  | refused
  | ignored
  deriving DecidableEq, Inhabited

namespace Node

/-- The fault for a node of the wrong shape: a scalar is placed after its token, an array or
object at its opening bracket, and text that is not JSON gives its own fault. -/
def typeFault (n : Node) (expected : String) : JsonError :=
  match n with
  | .scalar v _ after w => (JsonError.invalidType (v.unexpected w) expected).placedAt after
  | .array before .. => (JsonError.invalidType .sequence expected).placedAt before
  | .object before .. => (JsonError.invalidType .map expected).placedAt before
  | .broken e => e

/-- An integer in `[lo, hi]` named `expected`: negative misfits are signed, others unsigned. -/
def integerIn (lo hi : Int) (expected : String) : Decoder Int
  | .scalar (.number (.int k)) _ after _ =>
    if lo ≤ k && k ≤ hi then .ok k
    else
      let found := if k ≥ 0 then Unexpected.unsigned k.toNat else .signed k
      .error ((JsonError.invalidValue found expected).placedAt after)
  | other => .error (other.typeFault expected)

def u8 (n : Node) : Except JsonError Nat := (integerIn 0 255 "u8" n).map Int.toNat

def u32 (n : Node) : Except JsonError Nat := (integerIn 0 (Int.ofNat (Nat.pow 2 32) - 1) "u32" n).map Int.toNat

def u64 (n : Node) : Except JsonError Nat := (integerIn 0 (Int.ofNat (Nat.pow 2 64) - 1) "u64" n).map Int.toNat

def usize (n : Node) : Except JsonError Nat := (integerIn 0 (Int.ofNat (Nat.pow 2 64) - 1) "usize" n).map Int.toNat

def i64 : Decoder Int := integerIn (-(Int.ofNat (Nat.pow 2 63))) (Int.ofNat (Nat.pow 2 63) - 1) "i64"

/-- A binary64 float; integers are rounded to the nearest float. -/
def f64 : Decoder Float
  | .scalar (.number (.int k)) _ _ _ => .ok (Numeral.floatOfInt k)
  | .scalar (.number (.float x)) _ _ _ => .ok x
  | other => .error (other.typeFault "f64")

/-- A float rounded to binary32, held as the binary64 value it equals; an integer is rounded
to binary32 directly, not through binary64. -/
def f32 : Decoder Float
  | .scalar (.number (.int k)) _ _ _ =>
    .ok (Numeral.ofBinary32Bits (Numeral.intBinary32Bits k))
  | .scalar (.number (.float x)) _ _ _ => .ok (Numeral.ofBinary32Bits (Numeral.toBinary32Bits x))
  | other => .error (other.typeFault "f32")

def bool : Decoder Bool
  | .scalar (.bool b) _ _ _ => .ok b
  | other => .error (other.typeFault "a boolean")

def string : Decoder String
  | .scalar (.string s) _ _ _ => .ok s
  | other => .error (other.typeFault "a string")

def json : Decoder Json := toJson

def option {α : Type} (d : Decoder α) : Decoder (Option α)
  | .scalar .null _ _ _ => .ok none
  | other => (d other).map some

/-- An array whose items are read by `d`. -/
def list {α : Type} (d : Decoder α) : Decoder (List α)
  | .array _ items tail _ => do
    let values ← items.mapM fun (item, place) => (d item).mapError (·.placedAt place)
    match tail with
    | some e => .error e
    | none => .ok values
  | other => .error (other.typeFault "a sequence")

/-- A decoder whose result is checked by `f`; a refusal is a fault without a place. -/
def refine {α β : Type} (d : Decoder α) (f : α → Except String β) : Decoder β := fun n => do
  match f (← d n) with
  | .ok b => .ok b
  | .error reason => .error (JsonError.custom reason)

/-- A case of an enumeration written as its name: the name must be one of `known`. A value
node that is not a string is of the wrong type, named `expected`; a text node that is not a
string or an object is no value at all. -/
def variant (known : List String) : Decoder String
  | .scalar (.string s) _ _ _ =>
    if known.contains s then .ok s else .error (JsonError.unknownVariant s known)
  | .scalar v before _ w =>
    match before with
    | some p => .error ((JsonError.custom "expected value").placedAt (some p.next))
    | none => .error (JsonError.invalidType (v.unexpected w) "string or map")
  | .array before .. =>
    match before with
    | some p => .error ((JsonError.custom "expected value").placedAt (some p.next))
    | none => .error (JsonError.invalidType .sequence "string or map")
  | .object .. => .error (JsonError.custom "invalid type: map, expected a unit variant")
  | .broken e => .error e

structure FieldCheck where
  name : String
  check : Node → Except JsonError Unit

def field {α : Type} (name : String) (d : Decoder α) : FieldCheck :=
  ⟨name, fun n => (d n).map fun _ => ()⟩

/-- The members of a record named `expected`: each known member is checked in order (a fault
it raises without a place is placed after the member), an unknown one is passed over, a
repeated key is a fault, and then each of `required` that did not appear is missing. -/
def record (expected : String) (fields : List FieldCheck) (required : List String) :
    Decoder (List (String × Node))
  | .object _ members tail after => do
    let step (seen : List String) (member : String × Option Place × Node × Option Place) :
        Except JsonError (List String) :=
      let (key, keyPlace, value, place) := member
      match fields.find? (·.name == key) with
      | some f =>
        if seen.contains key then .error ((JsonError.duplicateField key).placedAt keyPlace)
        else do
          (f.check value).mapError (·.placedAt place)
          .ok (key :: seen)
      | none => .ok seen
    let seen ← members.foldlM step []
    match tail with
    | some e => .error e
    | none =>
      match required.find? (fun r => !seen.contains r) with
      | some r => .error ((JsonError.missingField r).placedAt after)
      | none => .ok (members.map fun (key, _, value, _) => (key, value))
  | other => .error (other.typeFault expected)

def lengthFault (length : Nat) (expected : String) : JsonError :=
  JsonError.custom ("invalid length " ++ toString length ++ ", expected " ++ expected)

/-- A record named `expected` written either as an object (see `record`, whose missing members
are checked against `required`) or as an array whose items are its fields in order. In an array
each item is checked by its field's check; a field not in `itemsRequired` may be left out at the
end, any other missing field makes the array too short (a fault placed after the closing
bracket), and items beyond the last field make it too long unless `surplus` passes over them. -/
def recordOrItemsWith (expected : String) (fields : List FieldCheck) (required : List String)
    (itemsRequired : List String) (surplus : Surplus := .refused) : Decoder (List (String × Node))
  | .array _ items tail after => do
    let named := (fields.zip (items.map (·.1))).map fun (f, item) => (f, item)
    for ((f, item), place) in named.zip (items.map (·.2)) do
      (f.check item).mapError (·.placedAt place)
    match tail with
    | some e => .error e
    | none =>
      let count := fields.length
      match (fields.drop items.length).find? (itemsRequired.contains ·.name) with
      | some _ =>
        .error ((lengthFault items.length (expected ++ " with " ++ toString count ++ " elements")).placedAt
          after)
      | none =>
        if items.length > count && surplus == .refused then
          .error (lengthFault items.length "fewer elements in array")
        else .ok (named.map fun (f, item) => (f.name, item))
  | other => record expected fields required other

/-- A record written as an object or as an array, where a field with a default may be left out
of either form; see `recordOrItemsWith`. -/
def recordOrItems (expected : String) (fields : List FieldCheck) (required : List String) :
    Decoder (List (String × Node)) :=
  recordOrItemsWith expected fields required required

end Node

/-- The member under `key` of a checked record, read by `d`, or `fallback` when absent. -/
def Members.getD {α : Type} (members : List (String × Node)) (key : String) (d : Decoder α)
    (fallback : α) : α :=
  match members.find? (·.1 == key) with
  | some (_, n) => match d n with
    | .ok a => a
    | .error _ => fallback
  | none => fallback

/-- The member under `key` of a checked record, read by `d`: `none` when absent or unreadable. -/
def Members.get? {α : Type} (members : List (String × Node)) (key : String) (d : Decoder α) :
    Option α :=
  match members.find? (·.1 == key) with
  | some (_, n) => match d n with
    | .ok a => some a
    | .error _ => none
  | none => none

def Json.decode {α : Type} (d : Decoder α) (j : Json) : Except JsonError α := d (Node.ofJson j)

/-- Decodes JSON text with `d`; faults are placed in the text. A fault of the shape found
before the end comes first; text after the value is a fault only once the value decoded. -/
def decodeText {α : Type} (d : Decoder α) (text : String) : Except JsonError α :=
  let (n, rest) := Node.read text
  match d n with
  | .error e => .error e
  | .ok a => match rest with
    | some e => .error e
    | none => .ok a

end ResilientAgent
