import ResilientAgent.Text.Alphanumeric
import ResilientAgent.Text.Blank

/-!
# Environment files

A `.env` file in the working directory adds variables to the environment before anything
else reads it; a variable already set keeps its value. The file is read entry by entry and
reading stops at the first entry that does not read, the entries before it having been
added.

An entry is `KEY=value`, optionally after `export `; blank lines and lines starting with `#`
are skipped. A key starts with a letter or `_` and goes on with letters, digits, `_` and `.`.
A value may mix bare text, text in single quotes (taken literally) and text in double quotes
(where `\\`, `\'`, `\"`, `\$`, `\ ` and `\n` are escapes); a double-quoted or single-quoted
value may run over several lines. Outside single quotes, `$NAME` and `${NAME}` stand for the
variable's value, looked up in the environment first and then among the entries read so far.
Blanks end a bare value, after which only a comment may follow. A `#` after a blank starts a
comment.
-/

namespace ResilientAgent

namespace Dotenv

/-- Where the scan of a line's end stands, to tell whether an entry goes on past it. -/
inductive LineState where
  | complete
  | escape
  | strongOpen
  | strongOpenEscape
  | weakOpen
  | weakOpenEscape
  | whiteSpace
  | comment
  deriving DecidableEq, Inhabited

def isLineBlank (c : Char) : Bool := Text.isBlank c && c != '\n' && c != '\r'

def scanState : LineState → List Char → Nat → LineState × Option Nat
  | s, [], _ => (s, none)
  | s, c :: rest, at_ =>
    let next : LineState := match s with
      | .whiteSpace => match c with
        | '#' => .comment
        | '\\' => .escape
        | '"' => .weakOpen
        | '\'' => .strongOpen
        | _ => .complete
      | .escape => .complete
      | .complete =>
        if isLineBlank c then .whiteSpace
        else match c with
          | '\\' => .escape
          | '"' => .weakOpen
          | '\'' => .strongOpen
          | _ => .complete
      | .weakOpen => match c with
        | '\\' => .weakOpenEscape
        | '"' => .complete
        | _ => .weakOpen
      | .weakOpenEscape => .weakOpen
      | .strongOpen => match c with
        | '\\' => .strongOpenEscape
        | '\'' => .complete
        | _ => .strongOpen
      | .strongOpenEscape => .strongOpen
      | .comment => .comment
    if next == .comment then (.comment, some at_) else scanState next rest (at_ + 1)

def physicalLines (text : String) : List String :=
  let parts := text.splitOn "\n"
  let withBreaks := (parts.dropLast.map (· ++ "\n")) ++ [parts.getLast?.getD ""]
  withBreaks.filter (!·.isEmpty)

def dropBreak (s : String) : String :=
  let s := if s.endsWith "\n" then s.dropEnd 1 |>.toString else s
  if s.endsWith "\r" then s.dropEnd 1 |>.toString else s

/-- Splits a file into entries: a quote left open carries the entry over to the next line, a
comment ends it, and a comment line is an empty entry. `none` closes the list when the file
ends inside an open quote, or after blanks with no line break after them. -/
def entries : List String → String → LineState → List (Option String)
  | [], buf, state => if state == .complete || buf.isEmpty then [] else [none]
  | line :: rest, buf, state =>
    let buf' := buf ++ line
    if (buf'.toList.dropWhile Text.isBlank).head? == some '#' then some "" :: entries rest "" .complete
    else
      match scanState state line.toList 0 with
      | (.comment, some at_) =>
        some (String.ofList (buf.toList ++ line.toList.take at_)) :: entries rest "" .complete
      | (.complete, _) => some (dropBreak buf') :: entries rest "" .complete
      | (other, _) => entries rest buf' other

/-- How a `$` reference is being read. -/
inductive Reference where
  | none
  | bare
  | braced
  deriving DecidableEq, Inhabited

/-- The state of reading a value. -/
structure ValueState where
  output : String := ""
  strong : Bool := false
  weak : Bool := false
  escaped : Bool := false
  expectingEnd : Bool := false
  reference : Reference := .none
  name : String := ""
  /-- A comment has started: the rest is not read. -/
  done : Bool := false
  deriving Inhabited

def readValue (lookup : String → String) (input : String) : Except Nat String :=
  let step (acc : Except Nat ValueState) (ic : Char × Nat) : Except Nat ValueState := do
    let s ← acc
    let (c, i) := ic
    if s.done then return s
    else if s.expectingEnd then
      if c == ' ' || c == '\t' then return s
      else if c == '#' then return { s with done := true }
      else throw i
    else if s.escaped then
      match c with
      | '\\' | '\'' | '"' | '$' | ' ' => return { s with output := s.output.push c, escaped := false }
      | 'n' => return { s with output := s.output.push '\n', escaped := false }
      | _ => throw i
    else if s.strong then
      if c == '\'' then return { s with strong := false } else return { s with output := s.output.push c }
    else if s.reference != .none then
      if Text.isAlphanumeric c then return { s with name := s.name.push c }
      else match s.reference with
        | .braced =>
          if c == '}' then return { s with reference := .none, output := s.output ++ lookup s.name, name := "" }
          else return { s with name := s.name.push c }
        | _ =>
          if c == '{' && s.name.isEmpty then return { s with reference := .braced }
          else
            let s := { s with output := s.output ++ lookup s.name, name := "" }
            if c == '$' then return { s with reference := .bare }
            else return { s with reference := .none, output := s.output.push c }
    else if c == '$' then return { s with reference := .bare }
    else if s.weak then
      if c == '"' then return { s with weak := false }
      else if c == '\\' then return { s with escaped := true }
      else return { s with output := s.output.push c }
    else if c == '\'' then return { s with strong := true }
    else if c == '"' then return { s with weak := true }
    else if c == '\\' then return { s with escaped := true }
    else if c == ' ' || c == '\t' then return { s with expectingEnd := true }
    else return { s with output := s.output.push c }
  let chars := input.toList
  match (chars.zipIdx.foldl step (.ok {})) with
  | .error i => .error i
  | .ok s =>
    if s.reference == .braced || s.strong || s.weak then .error (input.length - 1)
    else .ok (s.output ++ lookup s.name)

def readKey (cs : List Char) : Option (String × List Char) :=
  match cs with
  | c :: _ =>
    if c.isAlpha && c.toNat < 128 || c == '_' then
      let key := cs.takeWhile fun c => (c.isAlphanum && c.toNat < 128) || c == '_' || c == '.'
      some (String.ofList key, cs.drop key.length)
    else none
  | [] => none

/-- What one entry holds: nothing (a blank or comment), a variable, or a fault. -/
inductive Entry where
  | skip
  | set (key value : String)
  | fault
  deriving Inhabited

def readEntry (lookup : String → String) (line : String) : Entry :=
  let cs := (Text.trimBlank line).toList
  if cs.isEmpty || cs.head? == some '#' then .skip
  else
    let afterEquals (rest : List Char) : Option (List Char) :=
      match rest.dropWhile Text.isBlank with
      | '=' :: more => some more
      | _ => none
    let keyed : Option (String × List Char) := do
      let (key, rest) ← readKey cs
      match afterEquals rest with
      | some more => some (key, more)
      | none =>
        if key == "export" then
          let (key, rest) ← readKey (rest.dropWhile Text.isBlank)
          let more ← afterEquals rest
          some (key, more)
        else none
    match keyed with
    | none => .fault
    | some (key, more) =>
      let value := more.dropWhile Text.isBlank
      if value.isEmpty || value.head? == some '#' then .set key ""
      else match readValue lookup (String.ofList value) with
        | .ok v => .set key v
        | .error _ => .fault

/-- The environment after loading a file's text: each entry read in turn adds its variable
unless it is already set, and reading stops at the first fault. -/
def load (env : List (String × String)) (text : String) : List (String × String) :=
  let rec go : List (Option String) → List (String × String) → List (String × Option String) →
      List (String × String)
    | [], env, _ => env
    | none :: _, env, _ => env
    | some line :: rest, env, read =>
      let lookup (name : String) : String :=
        match env.find? (·.1 == name) with
        | some (_, v) => v
        | none => ((read.find? (·.1 == name)).bind (·.2)).getD ""
      match readEntry lookup line with
      | .skip => go rest env read
      | .fault => env
      | .set key value =>
        let env := if env.any (·.1 == key) then env else env ++ [(key, value)]
        go rest env ((key, some value) :: read)
  go (entries (physicalLines text) "" .complete) env []

end Dotenv

end ResilientAgent
