import ResilientAgent.Json.Parse

/-!
# Documents for decoding

A decoder reads a typed value out of JSON and, when it cannot, says where. `Node` is JSON as a
decoder meets it: each value carries the places its faults are reported at, and text that is
not JSON ends in a fault at the point where reading stopped, so that a decoder reports the
first fault it meets in reading order, whether it lies in the shape or in the text.

A node built from a value has no places. A node read from text places:

* a scalar's faults just after its token, and notes the place of its first byte;
* an array's or object's wrong type at its opening bracket;
* a fault raised while decoding an item or a member, that the item itself did not place, just
  after the item and the blank after it, the closing bracket included when it follows;
* a missing member just after the object's closing brace.
-/

namespace ResilientAgent

/-- A place in JSON text: line, and bytes before it on that line. -/
structure Place where
  line : Nat
  column : Nat
  deriving Repr, DecidableEq, Inhabited

def Place.next (p : Place) : Place := ⟨p.line, p.column + 1⟩

/-- How a fault spells a floating-point value found where something else was wanted: JSON
readers give the shortest digits, switching to an exponent for very large or very small
values; TOML readers give every digit positionally, with `.0` when no point shows. -/
inductive FloatWording where
  | shortest
  | positional
  deriving DecidableEq, Inhabited

/-- A JSON value as a decoder meets it. -/
inductive Node where
  /-- `null`, a boolean, a number or a string: the place of its first byte, the place just
  after it, and how a fault spells it if it is a float. -/
  | scalar (value : Json) (before after : Option Place) (wording : FloatWording)
  /-- An array: its opening place, its items each with the place for faults raised decoding
  it (for an item whose reading stopped at a fault, the place where it starts), the fault that
  cut its text short, if any, and the place just after its closing bracket. -/
  | array (before : Option Place) (items : List (Node × Option Place)) (tail : Option JsonError)
      (after : Option Place)
  /-- An object: its opening place, its members each with the place after its key and the
  place for faults raised decoding it, the fault that cut its text short, and the place just
  after its closing brace. A member whose value holds a fault that passing over its text does
  not meet is followed by the members after it; if passing over meets a fault, or the colon
  after a key is missing, that fault cuts the object short, and the member it was met in is the
  last, with no place for faults. -/
  | object (before : Option Place) (members : List (String × Option Place × Node × Option Place))
      (tail : Option JsonError) (after : Option Place)
  /-- Text that is not JSON, met here. -/
  | broken (error : JsonError)
  deriving Inhabited

namespace Node

theorem sizeOf_lt_of_mem_items {before : Option Place} {items : List (Node × Option Place)}
    {tail : Option JsonError} {after : Option Place} {item : Node × Option Place} (h : item ∈ items) :
    sizeOf item.1 < sizeOf (Node.array before items tail after) := by
  have below := List.sizeOf_lt_of_mem h
  cases item with
  | mk n p => simp only [Prod.mk.sizeOf_spec, Node.array.sizeOf_spec] at below ⊢; omega

theorem sizeOf_lt_of_mem_members {before : Option Place}
    {members : List (String × Option Place × Node × Option Place)} {tail : Option JsonError}
    {after : Option Place} {member : String × Option Place × Node × Option Place}
    (h : member ∈ members) :
    sizeOf member.2.2.1 < sizeOf (Node.object before members tail after) := by
  have below := List.sizeOf_lt_of_mem h
  obtain ⟨k, a, n, p⟩ := member
  simp only [Prod.mk.sizeOf_spec, Node.object.sizeOf_spec] at below ⊢
  omega

/-- The node of a value, with no places. -/
def ofJson : Json → Node
  | .array items => .array none (items.attach.map fun ⟨x, _⟩ => (ofJson x, none)) none none
  | .object fields =>
    .object none (fields.attach.map fun ⟨kv, _⟩ => (kv.1, none, ofJson kv.2, none)) none none
  | other => .scalar other none none .shortest
termination_by j => sizeOf j
decreasing_by
  · exact Json.sizeOf_lt_of_mem_array ‹_›
  · exact Json.sizeOf_lt_of_mem_object ‹_›

/-- The value the node holds, or the first fault of its text. Objects keep the last of equal
keys and sort their keys. -/
def toJson : Node → Except JsonError Json
  | .scalar v _ _ _ => .ok v
  | .broken e => .error e
  | .array _ items tail _ => do
    let values ← items.attach.mapM fun ⟨item, _⟩ => toJson item.1
    match tail with
    | some e => .error e
    | none => .ok (.array values)
  | .object _ members tail _ => do
    let values ← members.attach.mapM fun ⟨m, _⟩ => do return (m.1, ← toJson m.2.2.1)
    match tail with
    | some e => .error e
    | none => .ok (Json.obj values)
termination_by n => sizeOf n
decreasing_by
  · exact sizeOf_lt_of_mem_items ‹_›
  · exact sizeOf_lt_of_mem_members ‹_›

end Node

namespace JsonReader

def placeAt (bytes : ByteArray) (i : Nat) : Place :=
  let (line, column) := placeOf bytes i
  ⟨line, column⟩

def here : Reader Place := do
  return placeAt (← read) (← get)

/-- Runs a reader, turning a fault into a value. -/
def attempt {α : Type} (r : Reader α) : Reader (Except JsonError α) := do
  let i ← get
  let bytes ← read
  match (r.run i).run bytes with
  | .ok (a, j) => set j; return .ok a
  | .error e => return .error e

/-- The fault a reader raises, as a value (the reader must fail). -/
def faultOf (r : Reader Unit) : Reader JsonError := do
  match ← attempt r with
  | .error e => return e
  | .ok _ => return { reason := "" }

def skipBlankFrom (bytes : ByteArray) (i : Nat) : Nat :=
  i + ((bytes.extract i bytes.size).toList.takeWhile isBlank).length

/-- The place for faults raised decoding an item that ends at `i`: past the blank after it,
and past a closing bracket or a comma and the blank after it. -/
def itemPlace (bytes : ByteArray) (i : Nat) : Place :=
  let j := skipBlankFrom bytes i
  match bytes[j]? with
  | some 93 => placeAt bytes (j + 1)
  | some 44 => placeAt bytes (skipBlankFrom bytes (j + 1))
  | _ => placeAt bytes j

/-- The place for faults raised decoding a member that ends at `i`: past the blank after it,
and past a closing brace. -/
def memberPlace (bytes : ByteArray) (i : Nat) : Place :=
  let j := skipBlankFrom bytes i
  match bytes[j]? with
  | some 125 => placeAt bytes (j + 1)
  | _ => placeAt bytes j

/-- Reads one node; the flag tells whether reading stopped at a fault inside it. -/
def node : Nat → Reader (Node × Bool)
  | 0 => do return (.broken (← faultOf (peekFault "recursion limit exceeded")), true)
  | depth + 1 => do
    let first ← skipBlank
    let before ← here
    let scalar (r : Reader Json) : Reader (Node × Bool) := do
      match ← attempt r with
      | .ok v => return (.scalar v (some before) (some (← here)) .shortest, false)
      | .error e => return (.broken e, true)
    match first with
    | none => return (.broken (← faultOf (peekFault "EOF while parsing a value")), true)
    | some 110 => scalar (do eat; keyword [117, 108, 108]; pure .null)
    | some 116 => scalar (do eat; keyword [114, 117, 101]; pure (.bool true))
    | some 102 => scalar (do eat; keyword [97, 108, 115, 101]; pure (.bool false))
    | some 45 => scalar (do eat; pure (.number (← numberValue false)))
    | some 34 => scalar (do eat; pure (.string (← stringValue)))
    | some 91 =>
      if depth == 0 then return (.broken (← faultOf (peekFault "recursion limit exceeded")), true)
      eat
      let bytes ← read
      let (items, tail, stopped) ← arrayNodes depth (bytes.size + 1) true []
      if stopped || tail.isSome then return (.array (some before) items tail none, true)
      eat
      return (.array (some before) items none (some (← here)), false)
    | some 123 =>
      if depth == 0 then return (.broken (← faultOf (peekFault "recursion limit exceeded")), true)
      eat
      let bytes ← read
      let (members, tail, stopped) ← objectNodes depth (bytes.size + 1) true []
      if stopped || tail.isSome then return (.object (some before) members tail none, true)
      eat
      return (.object (some before) members none (some (← here)), false)
    | some b =>
      if (digitOf? b).isSome then scalar (do pure (.number (← numberValue true)))
      else return (.broken (← faultOf (peekFault "expected value")), true)
where
  /-- Items up to the closing bracket (unread), the fault that cut the array short, and whether
  reading stopped inside an item. -/
  arrayNodes (depth : Nat) : Nat → Bool → List (Node × Option Place) →
      Reader (List (Node × Option Place) × Option JsonError × Bool)
    | 0, _, acc => return (acc, none, false)
    | fuel + 1, first, acc => do
      let item : Reader (List (Node × Option Place) × Option JsonError × Bool) := do
        let start ← here
        let (n, stopped) ← node depth
        if stopped then return (acc ++ [(n, some start)], none, true)
        let place := itemPlace (← read) (← get)
        arrayNodes depth fuel false (acc ++ [(n, some place)])
      match ← skipBlank with
      | none => return (acc, some (← faultOf (peekFault "EOF while parsing a list")), false)
      | some 93 => return (acc, none, false)
      | some b =>
        if first then item
        else if b == 44 then
          eat
          match ← skipBlank with
          | some 93 => return (acc, some (← faultOf (peekFault "trailing comma")), false)
          | none => return (acc, some (← faultOf (peekFault "EOF while parsing a value")), false)
          | some _ => item
        else return (acc, some (← faultOf (peekFault "expected `,` or `]`")), false)
  /-- Members up to the closing brace (unread), the fault that cut the object short, and
  whether reading stopped inside a member. -/
  objectNodes (depth : Nat) : Nat → Bool → List (String × Option Place × Node × Option Place) →
      Reader (List (String × Option Place × Node × Option Place) × Option JsonError × Bool)
    | 0, _, acc => return (acc, none, false)
    | fuel + 1, first, acc => do
      let member (b : Option UInt8) :
          Reader (List (String × Option Place × Node × Option Place) × Option JsonError × Bool) := do
        match b with
        | some 34 =>
          eat
          match ← attempt stringValue with
          | .error e => return (acc, some e, false)
          | .ok key =>
            let colon ← skipBlank
            let keyPlace ← here
            match colon with
            | some 58 =>
              eat
              let start ← get
              let (n, stopped) ← node depth
              if stopped then
                -- read as a member a record does not know, the value is passed over
                set start
                match ← attempt passValue with
                | .ok () =>
                  let place := memberPlace (← read) (← get)
                  objectNodes depth fuel false (acc ++ [(key, some keyPlace, n, some place)])
                | .error e => return (acc ++ [(key, some keyPlace, n, none)], some e, false)
              else
                let place := memberPlace (← read) (← get)
                objectNodes depth fuel false (acc ++ [(key, some keyPlace, n, some place)])
            | some _ =>
              let e ← faultOf (peekFault "expected `:`")
              return (acc ++ [(key, some keyPlace, .broken e, none)], some e, false)
            | none =>
              let e ← faultOf (peekFault "EOF while parsing an object")
              return (acc ++ [(key, some keyPlace, .broken e, none)], some e, false)
        | some 125 => return (acc, some (← faultOf (peekFault "trailing comma")), false)
        | some _ => return (acc, some (← faultOf (peekFault "key must be a string")), false)
        | none => return (acc, some (← faultOf (peekFault "EOF while parsing a value")), false)
      match ← skipBlank with
      | none => return (acc, some (← faultOf (peekFault "EOF while parsing an object")), false)
      | some 125 => return (acc, none, false)
      | some b =>
        if first then member (some b)
        else if b == 44 then
          eat
          member (← skipBlank)
        else return (acc, some (← faultOf (peekFault "expected `,` or `\x7d`")), false)

end JsonReader

/-- Reads JSON text into a node for decoding; text after the value, other than blanks, is a
fault met after the value. -/
def Node.read (text : String) : Node × Option JsonError :=
  let run : JsonReader.Reader (Node × Option JsonError) := do
    let (n, stopped) ← JsonReader.node 128
    if stopped then return (n, none)
    match ← JsonReader.skipBlank with
    | none => return (n, none)
    | some _ => return (n, some (← JsonReader.faultOf (JsonReader.peekFault "trailing characters")))
  match (run.run 0).run text.toUTF8 with
  | .ok ((n, rest), _) => (n, rest)
  | .error e => (.broken e, none)

end ResilientAgent
