import ResilientAgent.Config.Basic
import ResilientAgent.Config.Toml.Scalar
import ResilientAgent.Config.Toml.Document

/-!
# Settings files

Configuration files are TOML documents: `key = value` lines, `[table]` and `[[array of
tables]]` headers, dotted and quoted keys, comments after `#`. Values are basic, literal and
multi-line strings, decimal, hexadecimal, octal and binary integers (underscores between
digits), floats (with `inf` and `nan`), booleans, dates and times (kept as text), arrays and
inline tables. A key may be given once; a table may be opened once.

A document reads into a JSON value with one object per table, which then decodes as the
runtime configuration. Reading also notes where each value was written, so that a fault met
while decoding a value points at it.

A fault is reported with its line and column, the line itself, carets under the place (the
whole value for a value that does not decode, one character otherwise) and what was wrong:
for a malformed line, the kind of thing being read and what was expected there.
-/

namespace ResilientAgent

namespace Toml

/-- Where a value was written, as the numbers of characters left unread at its first character
and just after its last one. -/
structure Span where
  startLeft : Nat
  stopLeft : Nat
  deriving DecidableEq, Inhabited

/-- The spans of the values written, by the keys (and item indices) that lead to them. -/
abbrev Spans := List (List String × Span)

/-- A fault met while reading a document: what was wrong, and how many characters were left
unread where it was met. -/
structure Fault where
  message : String
  left : Nat
  deriving Inhabited

abbrev Parser := StateT (List Char) (StateT Spans (Except Fault))

def fail {α : Type} (message : String) : Parser α := do throw ⟨message, (← get).length⟩

def failAt {α : Type} (message : String) (left : Nat) : Parser α := throw ⟨message, left⟩

def labelled (label : String) (message : String) : String := "invalid " ++ label ++ "\n" ++ message

def peek? : Parser (Option Char) := do return (← get).head?

def advance : Parser Unit := modify List.tail

def skipSpaces : Parser Unit := modify (List.dropWhile fun c => c == ' ' || c == '\t')

/-- Whether a character may stand in a comment: a tab, printable ASCII, or anything past
ASCII. -/
def isCommentChar (c : Char) : Bool :=
  c == '\t' || (0x20 ≤ c.toNat && c.toNat ≤ 0x7e) || c.toNat ≥ 0x80

/-- Skips a comment, if one starts here: the `#` and the comment characters after it. -/
def skipComment : Parser Unit := do
  if (← peek?) == some '#' then
    advance
    modify (List.dropWhile isCommentChar)

/-- Expects the end of a line: blanks, perhaps a comment, then a line break or the end. A fault
names `label`, the kind of line, when there is one. -/
def endOfLine (label : Option String) : Parser Unit := do
  skipSpaces
  skipComment
  match ← get with
  | [] => pure ()
  | '\n' :: rest => set rest
  | '\r' :: '\n' :: rest => set rest
  | _ =>
    let message := "expected newline, `#`"
    fail (match label with
      | some l => labelled l message
      | none => message)

/-- Skips the blanks, line breaks and comments between the items of an array: the text after
them, or, where a comment is not followed by a line break or a carriage return by a line feed,
the text where that line break was wanted (past the carriage return). -/
def arrayTrivia : Nat → List Char → Except (List Char) (List Char)
  | 0, cs => .ok cs
  | fuel + 1, cs =>
    match cs.dropWhile (fun c => c == ' ' || c == '\t') with
    | '#' :: rest =>
      match rest.dropWhile isCommentChar with
      | '\n' :: more => arrayTrivia fuel more
      | '\r' :: '\n' :: more => arrayTrivia fuel more
      | '\r' :: more => .error more
      | other => .error other
    | '\n' :: more => arrayTrivia fuel more
    | '\r' :: '\n' :: more => arrayTrivia fuel more
    | '\r' :: more => .error more
    | other => .ok other

def isBareKeyChar (c : Char) : Bool := c.isAlphanum || c == '_' || c == '-'

/-- Whether a key part starts here: a quote, or a character of a bare key. -/
def startsKeyPart : List Char → Bool
  | '"' :: _ | '\'' :: _ => true
  | c :: _ => isBareKeyChar c
  | [] => false

/-- Whether a character may stand unescaped in a string: a tab, or any character from the
space up but the delete character. -/
def isStringChar (c : Char) : Bool := c == '\t' || (c.toNat ≥ 0x20 && c.toNat != 0x7f)

abbrev StringFault := String × List Char

def badEscape : String :=
  "invalid escape sequence\nexpected `b`, `f`, `n`, `r`, `t`, `u`, `U`, `\\`, `\"`"

/-- The character of exactly `n` hex digits at the start, named `label` in faults; a code
point that is no scalar value is out of range. -/
def hexEscape (n : Nat) (label : String) (cs : List Char) : Except StringFault (Char × List Char) :=
  let ds := (cs.takeWhile isHexDigit).take n
  let v := digitsValue 16 ds
  if ds.length != n then .error ("invalid " ++ label, cs)
  else if v < 0xD800 || (0xDFFF < v && v ≤ 0x10FFFF) then .ok (Char.ofNat v, cs.drop n)
  else .error ("invalid " ++ label ++ "\n" ++ outOfRange, cs)

/-- Reads an escape after a backslash in a basic string; `none` when the text ends there. A
character no escape begins with is a fault just past it. -/
def escape : List Char → Option (Except StringFault (Char × List Char))
  | [] => none
  | c :: rest => some <|
    match c with
    | 'b' => .ok (Char.ofNat 8, rest)
    | 't' => .ok ('\t', rest)
    | 'n' => .ok ('\n', rest)
    | 'f' => .ok (Char.ofNat 12, rest)
    | 'r' => .ok ('\r', rest)
    | '"' => .ok ('"', rest)
    | '\\' => .ok ('\\', rest)
    | 'u' => hexEscape 4 "unicode 4-digit hex code" rest
    | 'U' => hexEscape 8 "unicode 8-digit hex code" rest
    | _ => .error (badEscape, rest)

/-- The body of a basic string after its opening quote, up to and past the closing quote. -/
def basicBody : Nat → List Char → List Char → Except StringFault (String × List Char)
  | 0, _, cs => .error ("invalid basic string", cs)
  | fuel + 1, acc, cs =>
    match cs with
    | '"' :: rest => .ok (String.ofList acc.reverse, rest)
    | '\\' :: rest =>
      match escape rest with
      | some (.ok (c, rest)) => basicBody fuel (c :: acc) rest
      | some (.error f) => .error f
      | none => .error ("invalid basic string", cs)
    | c :: rest =>
      if isStringChar c then basicBody fuel (c :: acc) rest else .error ("invalid basic string", cs)
    | [] => .error ("invalid basic string", cs)

/-- A line break at the start: a line feed, or a carriage return before one. -/
def lineBreak? : List Char → Option (List Char)
  | '\n' :: rest => some rest
  | '\r' :: '\n' :: rest => some rest
  | _ => none

/-- The text after blanks and line breaks at its start. -/
def dropBlankLines : Nat → List Char → List Char
  | 0, cs => cs
  | fuel + 1, cs =>
    match cs with
    | ' ' :: rest | '\t' :: rest => dropBlankLines fuel rest
    | _ => match lineBreak? cs with
      | some rest => dropBlankLines fuel rest
      | none => cs

/-- How a run of a multi-line string's quote character at the start reads: how many of the
quotes belong to the body, and the text after the closing quotes if they close it. Three close
the string, after up to two that belong to it; one or two before another character are body.
`none` when the run ends the text short of three. -/
def closingQuotes (q : Char) (cs : List Char) : Option (Nat × Option (List Char)) :=
  let run := (cs.takeWhile (· == q)).length
  if run ≥ 3 then some (Nat.min (run - 3) 2, some (cs.drop (Nat.min run 5)))
  else if run == cs.length then none
  else some (run, none)

/-- The body of a multi-line string after its opening quotes and the line break right after
them: `q` is its quote, `escapes` says whether backslashes escape, and `label` names it in
faults. A character that may not stand in it is a fault there; quotes that end the text are
a fault at the first of them. -/
def multiBody (q : Char) (escapes : Bool) (label : String) :
    Nat → List Char → List Char → Except StringFault (String × List Char)
  | 0, _, cs => .error ("invalid " ++ label, cs)
  | fuel + 1, acc, cs =>
    match cs with
    | c :: rest =>
      if c == q then
        match closingQuotes q cs with
        | some (kept, some after) => .ok (String.ofList (acc.reverse ++ List.replicate kept q), after)
        | some (kept, none) => multiBody q escapes label fuel (List.replicate kept q ++ acc) (cs.drop kept)
        | none => .error ("invalid " ++ label, cs)
      else if escapes && c == '\\' then
        -- a backslash at the end of a line drops the line break and the blanks after it
        let afterBlanks := rest.dropWhile fun c => c == ' ' || c == '\t'
        match lineBreak? afterBlanks with
        | some _ => multiBody q escapes label fuel acc (dropBlankLines afterBlanks.length afterBlanks)
        | none =>
          match escape rest with
          | some (.ok (e, rest)) => multiBody q escapes label fuel (e :: acc) rest
          | some (.error f) => .error f
          | none => .error ("invalid " ++ label, cs)
      else
        match lineBreak? cs with
        | some rest => multiBody q escapes label fuel ('\n' :: acc) rest
        | none =>
          if isStringChar c then multiBody q escapes label fuel (c :: acc) rest
          else .error ("invalid " ++ label, cs)
    | [] => .error ("invalid " ++ label, cs)

/-- The body of a literal string after its opening quote. -/
def literalBody (cs : List Char) : Except StringFault (String × List Char) :=
  let body := cs.takeWhile fun c => c != '\'' && isStringChar c
  match cs.drop body.length with
  | '\'' :: rest => .ok (String.ofList body, rest)
  | other => .error ("invalid literal string", other)

/-- Reads a string of any of the four kinds. -/
def stringValue : Parser String := do
  let cs ← get
  let result := match cs with
    | '"' :: '"' :: '"' :: rest =>
      let rest := (lineBreak? rest).getD rest
      multiBody '"' true "multiline basic string" (rest.length + 1) [] rest
    | '"' :: rest => basicBody (rest.length + 1) [] rest
    | '\'' :: '\'' :: '\'' :: rest =>
      let rest := (lineBreak? rest).getD rest
      multiBody '\'' false "multiline literal string" (rest.length + 1) [] rest
    | '\'' :: rest => literalBody rest
    | _ => .error (labelled "string" "expected `\"`, `'`", cs)
  match result with
  | .ok (s, rest) =>
    set rest
    return s
  | .error (message, at_) => failAt message at_.length

/-- Reads one key part: bare, or a basic or literal string on one line. -/
def keyPart : Parser String := do
  let cs ← get
  let result := match cs with
    | '"' :: rest => basicBody (rest.length + 1) [] rest
    | '\'' :: rest => literalBody rest
    | _ =>
      let bare := cs.takeWhile isBareKeyChar
      if bare.isEmpty then .error ("invalid key", cs) else .ok (String.ofList bare, cs.drop bare.length)
  match result with
  | .ok (s, rest) =>
    set rest
    return s
  | .error (message, at_) => failAt message at_.length

/-- Reads a dotted key. A dot not followed by a key part is left unread. -/
def key : Parser (List String) := do
  skipSpaces
  let first ← keyPart
  let rec more : Nat → List String → Parser (List String)
    | 0, acc => pure acc
    | fuel + 1, acc => do
      skipSpaces
      let atDot ← get
      if atDot.head? == some '.' then
        advance
        skipSpaces
        if startsKeyPart (← get) then
          let part ← keyPart
          more fuel (acc ++ [part])
        else
          set atDot
          pure acc
      else pure acc
  more ((← get).length + 1) [first]

/-- Whether a value may start here: a quote, a bracket or a brace, or a scalar that reads or is
malformed past doubt. -/
def startsValue (cs : List Char) : Bool :=
  match cs with
  | '"' :: _ | '\'' :: _ | '[' :: _ | '{' :: _ => true
  | _ =>
    match scalar cs with
    | .soft _ _ => false
    | _ => true

def nestingLimit : Nat := 79

/-- The spans noted while `body` runs, taken out of the state, with what it gives. -/
def collectSpans {α : Type} (body : Parser α) : Parser (α × Spans) := do
  let before ← getThe Spans
  set (σ := Spans) []
  let a ← body
  let fresh ← getThe Spans
  set (σ := Spans) before
  return (a, fresh)

def noteSpans (pre : List String) (fresh : Spans) : Parser Unit :=
  modifyThe Spans (fresh.map (fun (p, s) => (pre ++ p, s)) ++ ·)

mutual

/-- Reads one value, noting its span and those of its parts under `path`; `depth` is how many
more arrays and inline tables may open inside each other. -/
def value : Nat → List String → Parser Json
  | depth, path => do
    let startLeft := (← get).length
    let v ← match ← peek? with
      | some '"' | some '\'' => pure (Json.string (← stringValue))
      | some '[' =>
        advance
        match depth with
        | 0 => fail "recursion limit exceeded"
        | d + 1 => arrayItems d path 0 ((← get).length + 1) []
      | some '{' =>
        advance
        match depth with
        | 0 => fail "recursion limit exceeded"
        | d + 1 => inlineTable d path (← get).length ((← get).length + 1) [] none
      | _ =>
        match scalar (← get) with
        | .ok v rest =>
          set rest
          pure v
        | .soft message at_ | .hard message at_ => failAt message at_.length
    let stopLeft := (← get).length
    modifyThe Spans ((path, ⟨startLeft, stopLeft⟩) :: ·)
    return v

/-- Items of an array after its opening bracket, up to and past the closing one. An item whose
following blanks and comments do not end well is taken back, so the closing bracket is then
wanted where the item began. -/
def arrayItems (depth : Nat) (path : List String) (index : Nat) : Nat → List Json → Parser Json
  | 0, _ => fail (labelled "array" "expected `]`")
  | fuel + 1, acc => do
    match arrayTrivia ((← get).length + 1) (← get) with
    | .ok rest => set rest
    | .error at_ => failAt "" at_.length
    if (← peek?) == some ']' then
      advance
      return .array acc
    if !startsValue (← get) then fail (labelled "array" "expected `]`")
    let itemLeft := (← get).length
    let v ← value depth (path ++ [toString index])
    match arrayTrivia ((← get).length + 1) (← get) with
    | .ok rest => set rest
    | .error _ => failAt (labelled "array" "expected `]`") itemLeft
    match ← peek? with
    | some ',' =>
      advance
      arrayItems depth path (index + 1) fuel (acc ++ [v])
    | some ']' =>
      advance
      return .array (acc ++ [v])
    | _ => fail (labelled "array" "expected `]`")

/-- Key-value pairs of an inline table after its opening brace, up to and past the closing
one; `braceLeft` is how much was left unread just after the brace, where a clash among the
keys is reported once every pair has been read, and `comma` how much was left unread at the
comma before the next pair, if one came. Where no key starts, the closing brace is expected:
there for the first pair, at the comma after one. -/
def inlineTable (depth : Nat) (path : List String) (braceLeft : Nat) :
    Nat → List (List String × String × Json) → Option Nat → Parser Json
  | 0, _, _ => fail (labelled "inline table" "expected `\x7d`")
  | fuel + 1, pairs, comma => do
    skipSpaces
    let close (pairs : List (List String × String × Json)) : Parser Json := do
      match inlineTableValue pairs with
      | .ok table => pure table
      | .error clash => failAt clash.message braceLeft
    if comma.isNone && (← peek?) == some '}' then
      let table ← close pairs
      advance
      return table
    if !startsKeyPart (← get) then
      let table ← close pairs
      match comma with
      | some left => failAt (labelled "inline table" "expected `\x7d`") left
      | none => fail (labelled "inline table" "expected `\x7d`")
      return table
    let keys ← key
    skipSpaces
    if (← peek?) != some '=' then fail "expected `.`, `=`"
    advance
    skipSpaces
    let v ← value depth (path ++ keys)
    let pairs := pairs ++ [(keys.dropLast, keys.getLast?.getD "", v)]
    skipSpaces
    match ← peek? with
    | some ',' =>
      let left := (← get).length
      advance
      inlineTable depth path braceLeft fuel pairs (some left)
    | some '}' =>
      let table ← close pairs
      advance
      return table
    | _ =>
      let _ ← close pairs
      fail (labelled "inline table" "expected `\x7d`")

end

/-- Reads one header or key line into the document, noting the spans of what it writes: a
header's table is spanned by the header itself, and an array of tables from its first header
to its last. -/
def line (doc : Document) : Parser Document := do
  let lineLeft := (← get).length
  let header := "table header"
  match ← get with
  | '[' :: '[' :: _ =>
    advance; advance
    let path ← key
    skipSpaces
    match ← get with
    | ']' :: ']' :: rest => set rest
    | _ => fail (labelled header "expected `.`, `]]`")
    let stopLeft := (← get).length
    endOfLine (some header)
    match doc.openArrayTable path with
    | .error clash => failAt (labelled header clash.message) lineLeft
    | .ok (doc, index) =>
      let arrayPath := doc.currentJson.dropLast
      let spans ← getThe Spans
      let first := if index == 0 then lineLeft else (spans.lookup arrayPath).elim lineLeft (·.startLeft)
      modifyThe Spans ([(doc.currentJson, ⟨lineLeft, stopLeft⟩), (arrayPath, ⟨first, stopLeft⟩)] ++ ·)
      return doc
  | '[' :: _ =>
    advance
    let path ← key
    skipSpaces
    match ← get with
    | ']' :: rest => set rest
    | _ => fail (labelled header "expected `.`, `]`")
    let stopLeft := (← get).length
    endOfLine (some header)
    match doc.openTable path with
    | .error clash => failAt (labelled header clash.message) lineLeft
    | .ok doc =>
      modifyThe Spans ((doc.currentJson, ⟨lineLeft, stopLeft⟩) :: ·)
      return doc
  | _ =>
    let keys ← key
    skipSpaces
    if (← peek?) != some '=' then fail "expected `.`, `=`"
    advance
    skipSpaces
    let (v, fresh) ← collectSpans (value nestingLimit [])
    endOfLine none
    match doc.insert keys.dropLast (keys.getLast?.getD "") v with
    | .error clash => failAt clash.message lineLeft
    | .ok (doc, jsonPath) =>
      noteSpans jsonPath fresh
      return doc

/-- Reads every line of a document: blanks, comment lines (whose comment must end the line),
line breaks, headers and key lines; a carriage return that starts no line break ends the
reading with a fault. -/
def lines : Nat → Document → Parser Document
  | 0, doc => pure doc
  | fuel + 1, doc => do
    skipSpaces
    match ← get with
    | [] => return doc
    | '#' :: _ =>
      skipComment
      match ← get with
      | [] => return doc
      | '\n' :: rest => set rest
      | '\r' :: '\n' :: rest => set rest
      | _ => fail ""
      lines fuel doc
    | '\n' :: rest =>
      set rest
      lines fuel doc
    | '\r' :: '\n' :: rest =>
      set rest
      lines fuel doc
    | '\r' :: _ => fail ""
    | _ =>
      let doc ← line doc
      lines fuel doc

/-- A document as a JSON value with the spans of its values and tables, or the fault that makes
it no settings file. -/
def read (text : String) : Except Fault (Json × Spans) :=
  -- a byte order mark before the document is no part of it
  let cs := match text.toList with
    | '\uFEFF' :: rest => rest
    | cs => cs
  let parse : Parser Json := do
    let doc ← lines (cs.length + 1) {}
    match doc.finish with
    | .ok root => pure root
    | .error clash => fail clash.message
  match (parse.run cs).run [] with
  | .ok ((root, _), spans) => .ok (root, spans)
  | .error f => .error f

/-! ## Reporting faults -/

def byteLength (cs : List Char) : Nat := cs.foldl (fun n c => n + c.utf8Size) 0

/-- The line and column (both from zero) of a character offset, where an offset at the very end
counts as one past the last character. The column counts characters when the character there
is ASCII or the offset is at the end, and bytes otherwise. -/
def lineColumn (text : List Char) (offset : Nat) : Nat × Nat :=
  if text.isEmpty then (0, offset)
  else
    let safe := Nat.min offset (text.length - 1)
    let before := text.take safe
    let lineStart := before.length - (before.reverse.takeWhile (· != '\n')).length
    let inLine := before.drop lineStart
    let column := match (text.drop offset).head? with
      | some c => if c.toNat < 0x80 then inLine.length else byteLength inLine
      | none => inLine.length
    ((before.take lineStart).count '\n', column + (offset - safe))

/-- A fault as a settings file reports it: where, the line, carets under the bytes of the
`width` characters from `offset` (at least one caret, and none past the line but one), then
the message. -/
def report (text : String) (message : String) (offset width : Nat) : String :=
  let cs := text.toList
  let (line, column) := lineColumn cs offset
  let content := (text.splitOn "\n").getD line ""
  let lineNumber := toString (line + 1)
  let spaces (n : Nat) : String := String.ofList (List.replicate n ' ')
  let widthBytes := byteLength ((cs.drop offset).take width)
  let shown := Nat.min widthBytes (content.utf8ByteSize - column)
  "TOML parse error at line " ++ lineNumber ++ ", column " ++ toString (column + 1) ++ "\n" ++
    spaces (lineNumber.length + 1) ++ "|\n" ++
    lineNumber ++ " | " ++ content ++ "\n" ++
    spaces (lineNumber.length + 1) ++ "|" ++ spaces (column + 1) ++ "^" ++
    String.ofList (List.replicate (shown - 1) '^') ++ "\n" ++
    message ++ "\n"

def placeOf (text : List Char) (offset : Nat) : Place :=
  let (line, column) := lineColumn text offset
  ⟨line + 1, column⟩

/-- The node of a value read from a document, placed by the spans of its values: a value's
faults are placed at its end, and a table's or array's at its start. -/
def nodeOf (text : List Char) (spans : Spans) (path : List String) : Json → Node
  | .array items =>
    let span := spans.lookup path
    .array (span.map fun s => placeOf text (text.length - s.startLeft))
      (items.zipIdx.attach.map fun ⟨(x, i), _⟩ =>
        (nodeOf text spans (path ++ [toString i]) x,
          (spans.lookup (path ++ [toString i])).map fun s => placeOf text (text.length - s.stopLeft)))
      none (span.map fun s => placeOf text (text.length - s.stopLeft))
  | .object fields =>
    let span := spans.lookup path
    .object (span.map fun s => placeOf text (text.length - s.startLeft))
      (fields.attach.map fun ⟨(k, v), _⟩ =>
        (k, none, nodeOf text spans (path ++ [k]) v,
          (spans.lookup (path ++ [k])).map fun s => placeOf text (text.length - s.stopLeft)))
      none (span.map fun s => placeOf text (text.length - s.stopLeft))
  | other =>
    let span := spans.lookup path
    .scalar other (span.map fun s => placeOf text (text.length - s.startLeft))
      (span.map fun s => placeOf text (text.length - s.stopLeft)) .positional
termination_by j => sizeOf j
decreasing_by
  · have h := List.mem_zipIdx_iff_getElem?.mp ‹_›
    exact Json.sizeOf_lt_of_mem_array (List.mem_of_getElem? h)
  · exact Json.sizeOf_lt_of_mem_object ‹_›

/-- The span a decoding fault placed at `p` points at: the value ending there, or else the
array or table starting there. -/
def spanAt (text : List Char) (spans : Spans) (p : Place) : Option Span :=
  ((spans.map (·.2)).find? fun s => placeOf text (text.length - s.stopLeft) == p).orElse fun _ =>
    (spans.map (·.2)).find? fun s => placeOf text (text.length - s.startLeft) == p

end Toml

/-- A configuration from the text of a settings file, or the report of why it is none: the
text is no TOML, or a value does not decode as the setting it gives. -/
def RuntimeConfig.ofTomlText (text : String) : Except String RuntimeConfig :=
  let cs := text.toList
  match Toml.read text with
  | .error f => .error (Toml.report text f.message (cs.length - f.left) 1)
  | .ok (j, spans) =>
    match RuntimeConfig.decode .ignored (Toml.nodeOf cs spans [] j) with
    | .ok c => .ok c
    | .error e =>
      match (if e.line == 0 then none else Toml.spanAt cs spans ⟨e.line, e.column⟩) with
      | some s => .error (Toml.report text e.reason (cs.length - s.startLeft) (s.startLeft - s.stopLeft))
      | none => .error (e.reason ++ "\n")

/-- A configuration from the text of a settings file; `none` when the text is no TOML or does
not decode as a configuration. -/
def RuntimeConfig.ofToml? (text : String) : Option RuntimeConfig :=
  (RuntimeConfig.ofTomlText text).toOption

end ResilientAgent
