import ResilientAgent.Numeral.Text

/-!
# JSON values

The runtime's data format. A number is an integer that fits 64 bits (non-negative up to
`2^64 - 1`, negative down to `-2^63`) or a binary64 float. An object keeps its members as a
list; objects read from text or built as values have their keys sorted and unique, the last
of two equal keys winning, while records written field by field keep their field order.
-/

namespace ResilientAgent

/-- A JSON number as a value holds it. -/
inductive Number where
  | int (n : Int)
  | float (x : Float)
  deriving Inhabited

/-- A JSON document. -/
inductive Json where
  | null
  | bool (b : Bool)
  | number (n : Number)
  | string (s : String)
  | array (items : List Json)
  | object (fields : List (String × Json))
  deriving Inhabited

namespace Json

def int (n : Int) : Json := .number (.int n)

def nat (n : Nat) : Json := .number (.int n)

def float (x : Float) : Json := .number (.float x)

def opt {α : Type} (f : α → Json) : Option α → Json
  | some a => f a
  | none => .null

/-- Inserts a member into a key-sorted member list, replacing an equal key. -/
def insertSorted (key : String) (value : Json) :
    List (String × Json) → List (String × Json)
  | [] => [(key, value)]
  | (k, v) :: rest =>
    if key < k then (key, value) :: (k, v) :: rest
    else if key == k then (key, value) :: rest
    else (k, v) :: insertSorted key value rest

/-- An object value from members in any order: keys sorted, the last of equal keys kept. -/
def obj (fields : List (String × Json)) : Json :=
  .object (fields.foldl (fun acc (k, v) => insertSorted k v acc) [])

/-- The member of an object under `key`. -/
def get? (j : Json) (key : String) : Option Json :=
  match j with
  | .object fields => (fields.find? (·.1 == key)).map (·.2)
  | _ => none

def has (j : Json) (key : String) : Bool := (j.get? key).isSome

def str? : Json → Option String
  | .string s => some s
  | _ => none

def bool? : Json → Option Bool
  | .bool b => some b
  | _ => none

def array? : Json → Option (List Json)
  | .array items => some items
  | _ => none

def object? : Json → Option (List (String × Json))
  | .object fields => some fields
  | _ => none

def int? : Json → Option Int
  | .number (.int n) => some n
  | _ => none

def nat? : Json → Option Nat
  | .number (.int n) => if n ≥ 0 then some n.toNat else none
  | _ => none

/-- Any number value as a float. -/
def float? : Json → Option Float
  | .number (.int n) => some (Numeral.floatOfInt n)
  | .number (.float x) => some x
  | _ => none

theorem sizeOf_lt_of_mem_object {fields : List (String × Json)} {kv : String × Json}
    (h : kv ∈ fields) : sizeOf kv.2 < sizeOf (Json.object fields) := by
  have below := List.sizeOf_lt_of_mem h
  cases kv with
  | mk k v => simp only [Prod.mk.sizeOf_spec, Json.object.sizeOf_spec] at below ⊢; omega

theorem sizeOf_lt_of_mem_array {items : List Json} {x : Json} (h : x ∈ items) :
    sizeOf x < sizeOf (Json.array items) := by
  have below := List.sizeOf_lt_of_mem h
  simp only [Json.array.sizeOf_spec]
  omega

theorem sizeOf_lt_of_get? {j v : Json} {key : String} (h : j.get? key = some v) :
    sizeOf v < sizeOf j := by
  cases j with
  | object fields =>
    simp only [get?, Option.map_eq_some_iff] at h
    obtain ⟨kv, found, rfl⟩ := h
    exact sizeOf_lt_of_mem_object (List.mem_of_find?_eq_some found)
  | _ => simp [get?] at h

def isNull : Json → Bool
  | .null => true
  | _ => false

end Json

end ResilientAgent
