import ResilientAgent.Config.Toml.Scalar

/-!
# Tables of a settings file

A settings file fills tables in three ways: `key = value` lines put values into the table of
the last header (the root before any header), dotted keys on those lines make tables on the way
to their last key, and headers open tables (`[a.b]`) or add a table to an array of tables
(`[[a.b]]`). Which of these may meet is fixed by how each table was made:

* a table made only on the way to a deeper key is *implicit*; a header may later open it, once;
* a table made by a dotted key is *dotted*; more dotted keys may extend it, but no header may
  open it, and a dotted key may not extend a table that a header opened;
* a value is never extended: a dotted key or header through it is refused, naming the value's
  type; an array of tables is entered at its last table;
* a key may be given once in a table, and a table opened by a header once.

A header takes its table out of its parent while its lines are read and puts it back, at the
end of the parent's entries, when the next header comes or the file ends.

Inline tables follow the same rules among their own keys, with every table they make dotted,
and are values to everything outside them. A fault names the key, and for a key given twice on
a key line the table of the header it is under; a header names a key in the form a settings
file would write it.
-/

namespace ResilientAgent

namespace Toml

/-- What a key of a document holds while the document is read. -/
inductive Item where
  /-- A value written after `=`. -/
  | value (v : Json)
  /-- A table: whether it was only made on the way to a deeper key (`implicit`), whether a
  dotted key made it, and its entries in order. -/
  | table (implicit dotted : Bool) (entries : List (String × Item))
  /-- An array of tables made by `[[...]]` headers, each table given by its entries. -/
  | tables (elements : List (List (String × Item)))
  deriving Inhabited

theorem Item.sizeOf_lt_of_mem_table {implicit dotted : Bool} {entries : List (String × Item)}
    {kv : String × Item} (h : kv ∈ entries) :
    sizeOf kv.2 < sizeOf (Item.table implicit dotted entries) := by
  have below := List.sizeOf_lt_of_mem h
  cases kv with
  | mk k v => simp only [Prod.mk.sizeOf_spec, Item.table.sizeOf_spec] at below ⊢; omega

theorem Item.sizeOf_lt_of_mem_tables {elements : List (List (String × Item))}
    {entries : List (String × Item)} {kv : String × Item} (h : entries ∈ elements)
    (h' : kv ∈ entries) : sizeOf kv.2 < sizeOf (Item.tables elements) := by
  have below := List.sizeOf_lt_of_mem h
  have inner := List.sizeOf_lt_of_mem h'
  cases kv with
  | mk k v => simp only [Prod.mk.sizeOf_spec, Item.tables.sizeOf_spec] at inner below ⊢; omega

/-- The JSON form of an item: a table as an object of its entries, an array of tables as an
array of objects. -/
def Item.toJson : Item → Json
  | .value v => v
  | .table _ _ entries => .object (entries.attach.map fun ⟨kv, _⟩ => (kv.1, kv.2.toJson))
  | .tables elements =>
    .array (elements.attach.map fun ⟨entries, _⟩ =>
      .object (entries.attach.map fun ⟨kv, _⟩ => (kv.1, kv.2.toJson)))
termination_by i => sizeOf i
decreasing_by
  · exact Item.sizeOf_lt_of_mem_table ‹_›
  · exact Item.sizeOf_lt_of_mem_tables ‹_› ‹_›

/-- A table being filled: implicit, dotted, and its entries. -/
structure Table where
  implicit : Bool := false
  dotted : Bool := false
  entries : List (String × Item) := []
  deriving Inhabited

def Table.toItem (t : Table) : Item := .table t.implicit t.dotted t.entries

def Table.toJson (t : Table) : Json := t.toItem.toJson

def replaceEntry (key : String) (item : Item) (entries : List (String × Item)) :
    List (String × Item) :=
  entries.map fun (k, old) => if k == key then (k, item) else (k, old)

/-- The name of a value's type, as faults give it. -/
def valueKind : Json → String
  | .string _ => "string"
  | .number (.int _) => "integer"
  | .number (.float _) => "float"
  | .bool _ => "boolean"
  | .array _ => "array"
  | .object fields => if fields.map (·.1) == [datetimeKey] then "datetime" else "inline table"
  | .null => "string"

/-- Why a key or header does not fit the document. -/
inductive Clash where
  /-- A key given twice, with the table it is in when the fault names one (the keys of its
  header, empty for the root). -/
  | duplicate (key : String) (table : Option (List String))
  /-- A dotted key or header that passes through a value, with the keys up to the value and
  the value's type. -/
  | extendsValue (keys : List String) (kind : String)
  deriving Inhabited

/-- The message of a clash. -/
def Clash.message : Clash → String
  | .duplicate key none => "duplicate key `" ++ key ++ "`"
  | .duplicate key (some []) => "duplicate key `" ++ key ++ "` in document root"
  | .duplicate key (some table) =>
    "duplicate key `" ++ key ++ "` in table `" ++ ".".intercalate table ++ "`"
  | .extendsValue keys kind =>
    "dotted key `" ++ ".".intercalate keys ++ "` attempted to extend non-table type (" ++ kind ++ ")"

/-- Whether a key can be written bare: letters and digits of ASCII, `_` and `-`, at least one. -/
def isBareKey (key : String) : Bool :=
  !key.isEmpty && key.all fun c => c.isAlphanum || c == '_' || c == '-'

/-- Whether a key is written as a literal string: it holds a backslash or a double quote, no
control character but tab and line feed, no three single quotes in a row, and does not end
with a single quote. -/
def prefersLiteral (key : String) : Bool :=
  let cs := key.toList
  (cs.contains '\\' || cs.contains '"') &&
    cs.all (fun c => c == '\t' || c == '\n' || c.toNat ≥ 0x20) &&
    (key.splitOn "'''").length == 1 && cs.getLast? != some '\''

def hex4 (n : Nat) : String :=
  let digits := (Nat.toDigits 16 n).map Char.toUpper
  String.ofList (List.replicate (4 - digits.length) '0' ++ digits)

/-- A character of a basic string as a settings file writes it. -/
def basicEscaped (c : Char) : String :=
  match c with
  | '\x08' => "\\b"
  | '\t' => "\\t"
  | '\n' => "\\n"
  | '\x0c' => "\\f"
  | '\r' => "\\r"
  | '"' => "\\\""
  | '\\' => "\\\\"
  | c => if c.toNat ≤ 0x1f || c.toNat == 0x7f then "\\u" ++ hex4 c.toNat else String.singleton c

/-- A key as a settings file would write it: bare when it can be, else as a literal or basic
string on one line. -/
def keyRepr (key : String) : String :=
  if isBareKey key then key
  else if prefersLiteral key then "'" ++ key ++ "'"
  else "\"" ++ String.join (key.toList.map basicEscaped) ++ "\""

/-- The clash of the `i`-th key of a header with something already there, naming the key as
written and the keys before it. -/
def headerClash (path : List String) (i : Nat) : Clash :=
  .duplicate (keyRepr (path.getD i "")) (some (path.take i))

/-- Follows the keys of `path` from table `t` and changes the table reached by `f`. A missing
key gets an implicit table (dotted when `dotted`); an array of tables is entered at its last
table; a value is a clash, and so, for a dotted key, is a table that is not implicit. The
result is the changed table, what `f` says, and the JSON path of the table reached, each array
of tables adding its last index. `whole` holds every key, `done` of them before `path`. -/
def descend {α : Type} (dotted : Bool) (whole : List String) (f : Table → Except Clash (Table × α)) :
    Nat → List String → Table → Except Clash (Table × α × List String)
  | _, [], t => do
    let (t, a) ← f t
    return (t, a, [])
  | done, k :: rest, t =>
    match t.entries.lookup k with
    | none => do
      let (inner, a, p) ← descend dotted whole f (done + 1) rest { implicit := true, dotted }
      return ({ t with entries := t.entries ++ [(k, inner.toItem)] }, a, k :: p)
    | some (.value v) => .error (.extendsValue (whole.take (done + 1)) (valueKind v))
    | some (.tables elements) => do
      let (inner, a, p) ← descend dotted whole f (done + 1) rest { entries := elements.getLast?.getD [] }
      let elements := elements.dropLast ++ [inner.entries]
      return ({ t with entries := replaceEntry k (.tables elements) t.entries }, a,
        k :: toString (elements.length - 1) :: p)
    | some (.table implicit tableDotted entries) =>
      if dotted && !implicit then .error (.duplicate k none)
      else do
        let (inner, a, p) ← descend dotted whole f (done + 1) rest ⟨implicit, tableDotted, entries⟩
        return ({ t with entries := replaceEntry k inner.toItem t.entries }, a, k :: p)

/-- The reading state of a document: the root, the table that key lines fill (taken out of the
root while it is filled), the keys of the header that opened it, its JSON path, and whether it
belongs to an array of tables. -/
structure Document where
  root : Table := {}
  current : Table := {}
  currentPath : List String := []
  currentJson : List String := []
  currentIsArray : Bool := false
  deriving Inhabited

namespace Document

/-- Puts the table being filled back where its header says: the root's own keys become the
root, an array of tables gains it as its last table, and an opened table takes the place of an
implicit one or a free key. -/
def finalize (d : Document) : Except Clash Document := do
  match d.currentPath.getLast? with
  | none => return { d with root := d.current, current := {} }
  | some key =>
    let path := d.currentPath
    let clash := headerClash path (path.length - 1)
    let table := d.current
    let (root, _, _) ← descend false path (fun t =>
      match d.currentIsArray, t.entries.lookup key with
      | true, none => .ok ({ t with entries := t.entries ++ [(key, .tables [table.entries])] }, ())
      | true, some (.tables elements) =>
        .ok ({ t with entries := replaceEntry key (.tables (elements ++ [table.entries])) t.entries }, ())
      | false, none => .ok ({ t with entries := t.entries ++ [(key, table.toItem)] }, ())
      | false, some (.table true _ _) => .ok ({ t with entries := replaceEntry key table.toItem t.entries }, ())
      | _, _ => .error clash) 0 path.dropLast d.root
    return { root, current := {}, currentPath := [], currentJson := [], currentIsArray := false }

/-- Opens the table of a `[path]` header: an implicit table made on the way to deeper keys is
taken up with what it holds, a free key gets a new table, and anything else is a clash. -/
def openTable (d : Document) (path : List String) : Except Clash Document := do
  let d ← d.finalize
  let key := path.getLast?.getD ""
  let clash := headerClash path (path.length - 1)
  let (root, kept, json) ← descend false path (fun t =>
    match t.entries.lookup key with
    | none => .ok (t, [])
    | some (.table true false entries) => .ok ({ t with entries := t.entries.filter (·.1 != key) }, entries)
    | some _ => .error clash) 0 path.dropLast d.root
  return { root, current := { entries := kept }, currentPath := path, currentJson := json ++ [key],
           currentIsArray := false }

/-- Opens a new table of the array of tables of a `[[path]]` header, making the array if the
key is free; anything else there is a clash. The index of the new table is the number of tables
the array had. -/
def openArrayTable (d : Document) (path : List String) : Except Clash (Document × Nat) := do
  let d ← d.finalize
  let key := path.getLast?.getD ""
  let clash := headerClash path (path.length - 1)
  let (root, count, json) ← descend false path (fun t =>
    match t.entries.lookup key with
    | none => .ok ({ t with entries := t.entries ++ [(key, .tables [])] }, 0)
    | some (.tables elements) => .ok (t, elements.length)
    | some _ => .error clash) 0 path.dropLast d.root
  return ({ root, current := {}, currentPath := path, currentJson := json ++ [key, toString count],
            currentIsArray := true }, count)

/-- Puts `value` under the dotted key `path` then `key` of the table being filled, with the JSON
path it lands at. A dotted key may only go through dotted tables and a plain key only into a
table that is not dotted; a key already there is a clash naming the header's table. -/
def insert (d : Document) (path : List String) (key : String) (v : Json) :
    Except Clash (Document × List String) := do
  let (current, _, json) ← descend true path (fun t =>
    if t.dotted == path.isEmpty then .error (.duplicate key none)
    else if (t.entries.lookup key).isSome then .error (.duplicate key (some d.currentPath))
    else .ok ({ t with entries := t.entries ++ [(key, .value v)] }, ())) 0 path d.current
  return ({ d with current }, d.currentJson ++ json ++ [key])

def finish (d : Document) : Except Clash Json := do
  return (← d.finalize).root.toJson

end Document

/-! ## Inline tables -/

/-- Follows the keys of `path` inside an inline table and changes the table reached by `f`:
missing keys get dotted tables, tables written inline are entered as they are, and any other
value is a clash naming its type. -/
def descendInline {α : Type} (whole : List String) (f : Table → Except Clash (Table × α)) :
    Nat → List String → Table → Except Clash (Table × α)
  | _, [], t => f t
  | done, k :: rest, t =>
    let enter (inner : Table) : Except Clash (Table × α) := do
      let (inner, a) ← descendInline whole f (done + 1) rest inner
      return ({ t with entries := replaceEntry k inner.toItem t.entries }, a)
    match t.entries.lookup k with
    | none => do
      let (inner, a) ← descendInline whole f (done + 1) rest { implicit := true, dotted := true }
      return ({ t with entries := t.entries ++ [(k, inner.toItem)] }, a)
    | some (.table implicit dotted entries) => enter ⟨implicit, dotted, entries⟩
    | some (.value v@(.object fields)) =>
      if valueKind v == "inline table" then enter { entries := fields.map fun (k, x) => (k, .value x) }
      else .error (.extendsValue (whole.take (done + 1)) (valueKind v))
    | some (.value v) => .error (.extendsValue (whole.take (done + 1)) (valueKind v))
    | some (.tables _) => .error (.extendsValue (whole.take (done + 1)) "array")

/-- The value of an inline table from its key-value pairs in order, each a dotted path, a key
and a value; a key given twice or a table written both ways is a clash naming only the key. -/
def inlineTableValue (pairs : List (List String × String × Json)) : Except Clash Json := do
  let table ← pairs.foldlM (fun (t : Table) (path, key, v) => do
    let (t, _) ← descendInline path (fun target =>
      if target.dotted == path.isEmpty then .error (.duplicate key none)
      else if (target.entries.lookup key).isSome then .error (.duplicate key none)
      else .ok ({ target with entries := target.entries ++ [(key, .value v)] }, ())) 0 path t
    return t) {}
  return table.toJson

end Toml

end ResilientAgent
