import ResilientAgent.Json.Decode

/-!
# Chat submissions

The body of a chat submission is a JSON object with the user, the message and an optional
priority byte; members it does not know are ignored, and it may also be written as an array of
the three in order, the priority left out at the end. A body is read only when the request
says it is JSON: its media type is `application/json`, or any `application` type with a
`+json` suffix.

A body that cannot be read is refused with a text that says why: the request was not labelled
as JSON, the text is not JSON, or the JSON does not have the shape of a submission. A fault met
inside a member's value names the member (or the item's index) before the fault itself.
-/

namespace ResilientAgent

/-- A chat submission. -/
structure ChatRequest where
  userId : String
  message : String
  /-- The priority byte, if given; its range is checked when the job is made. -/
  priority : Option Nat
  deriving Inhabited

/-- Why a body was refused. -/
inductive BodyRejection where
  /-- The request was not labelled as JSON. -/
  | notJson
  /-- The text is not JSON; the fault, and where in the value it was met. -/
  | malformed (path : String) (error : JsonError)
  /-- The JSON does not have the shape of a submission. -/
  | shape (path : String) (error : JsonError)

def pathText (path : String) (e : JsonError) : String :=
  if path.isEmpty then e.message else path ++ ": " ++ e.message

def BodyRejection.text : BodyRejection → String
  | .notJson => "Expected request with `Content-Type: application/json`"
  | .malformed path e => "Failed to parse the request body as JSON: " ++ pathText path e
  | .shape path e => "Failed to deserialize the JSON body into the target type: " ++ pathText path e

def isTokenChar (c : Char) : Bool := c.isAlphanum || "!#$%&\x27*+-.^_\x60|~".toList.contains c

def isQuotedChar (c : Char) : Bool := c.toNat > 31 && c.toNat != 127

/-- Whether the parameters after a media type's first `;` are well formed: each is a name of
token characters, `=`, and a value that is either token characters (empty only at the end) or
at least one character between double quotes, followed by blanks; a `;` ends each, and blanks
may open a name. -/
def paramsFit : Nat → List Char → Bool
  | 0, _ => true
  | _ + 1, [] => true
  | fuel + 1, ' ' :: rest => paramsFit fuel rest
  | fuel + 1, cs =>
    let name := cs.takeWhile isTokenChar
    match cs.drop name.length with
    | '=' :: rest =>
      if name.isEmpty then false
      else match rest with
        | '"' :: first :: more =>
          let inside := more.takeWhile (· != '"')
          if !(isQuotedChar first && inside.all isQuotedChar) then false
          else match more.drop inside.length with
            | '"' :: after =>
              match after.dropWhile (· == ' ') with
              | [] => true
              | ';' :: next => paramsFit fuel next
              | _ => false
            | _ => false
        | '"' :: [] => false
        | _ =>
          let value := rest.takeWhile isTokenChar
          match rest.drop value.length with
          | [] => true
          | ';' :: next => !value.isEmpty && paramsFit fuel next
          | _ => false
    | _ => false

/-- Whether a media type is JSON: it reads as a type, `/`, a subtype and parameters, all well
formed, the type is `application` and the subtype is `json` or has the suffix `json` (the part
after its last `+` past the first character), in any case. -/
def isJsonMediaType (contentType : String) : Bool :=
  let cs := contentType.toList
  let kind := cs.takeWhile (· != '/')
  match cs.drop kind.length with
  | '/' :: rest =>
    let sub := rest.takeWhile isTokenChar
    let fits := match rest.drop sub.length with
      | [] => true
      | ';' :: params => !sub.isEmpty && paramsFit (params.length + 1) params
      | _ => false
    let tail := sub.drop 1
    let suffix := if tail.contains '+' then some (tail.reverse.takeWhile (· != '+')).reverse else none
    let isJson (part : List Char) : Bool := (String.ofList part).toLower == "json"
    fits && !kind.isEmpty && kind.all isTokenChar && (String.ofList kind).toLower == "application" &&
      (isJson sub || suffix.any isJson)
  | _ => false

namespace ChatRequest

def expected : String := "struct ChatRequest"

/-- Reads one member's value with `d`: broken text is malformed at `path`, a value of the wrong
shape is a fault of shape there, placed at `place` unless it has a place. -/
def memberValue {α : Type} (path : String) (d : Decoder α) (n : Node) (place : Option Place) :
    Except BodyRejection α :=
  match n with
  | .broken e => .error (.malformed path e)
  | _ => (d n).mapError fun e => .shape path (e.placedAt place)

/-- What has been read of a submission so far. -/
structure Partial where
  userId : Option String := none
  message : Option String := none
  priority : Option (Option Nat) := none

def Partial.finish (p : Partial) (after : Option Place) : Except BodyRejection ChatRequest :=
  match p.userId, p.message with
  | none, _ => .error (.shape "" ((JsonError.missingField "user_id").placedAt after))
  | some _, none => .error (.shape "" ((JsonError.missingField "message").placedAt after))
  | some userId, some message => .ok ⟨userId, message, p.priority.getD none⟩

def member (p : Partial) (m : String × Option Place × Node × Option Place) :
    Except BodyRejection Partial :=
  let (key, keyPlace, value, place) := m
  let duplicate := Except.error (BodyRejection.shape "" ((JsonError.duplicateField key).placedAt keyPlace))
  match key with
  | "user_id" =>
    if p.userId.isSome then duplicate
    else (memberValue key Node.string value place).map fun v => { p with userId := some v }
  | "message" =>
    if p.message.isSome then duplicate
    else (memberValue key Node.string value place).map fun v => { p with message := some v }
  | "priority" =>
    if p.priority.isSome then duplicate
    else (memberValue key (Node.option Node.u8) value place).map fun v => { p with priority := some v }
  | _ => .ok p

/-- A fault after the third item as the reader of the array form meets it: once three items
are read the array must close, so a missing comma or a missing item after a comma is text
after the value. -/
def pastThird (e : JsonError) : JsonError :=
  if e.reason == "expected `,` or `]`" || e.reason == "EOF while parsing a value" then
    { e with reason := "trailing characters" }
  else e

/-- Reads the array form: the user and the message must be there, the priority may be left
out; an item past the third is text after the value. -/
def items (items : List (Node × Option Place)) (tail : Option JsonError) (after : Option Place) :
    Except BodyRejection ChatRequest := do
  let itemAt (i : Nat) : Option (Node × Option Place) := items[i]?
  let tooShort := Except.error (BodyRejection.shape ""
    ((Node.lengthFault items.length (expected ++ " with 3 elements")).placedAt after))
  let stop (count : Nat) : Except BodyRejection Unit :=
    if items.length > count then .ok ()
    else match tail with
      | some e => .error (.malformed "" e)
      | none => .ok ()
  let userId ← match itemAt 0 with
    | some (n, place) => memberValue "[0]" Node.string n place
    | none => do stop 0; tooShort
  let message ← match itemAt 1 with
    | some (n, place) => memberValue "[1]" Node.string n place
    | none => do stop 1; tooShort
  let priority ← match itemAt 2 with
    | some (n, place) => memberValue "[2]" (Node.option Node.u8) n place
    | none => do stop 2; pure none
  match itemAt 3 with
  | some (n, _) =>
    let at_ := match n with
      | .scalar _ before _ _ | .array before .. | .object before .. => before.map Place.next
      | .broken _ => (items[3]?.bind (·.2)).map Place.next
    .error (.malformed "" ((JsonError.custom "trailing characters").placedAt at_))
  | none =>
    match tail with
    | some e => .error (.malformed "" (pastThird e))
    | none => .ok ⟨userId, message, priority⟩

def ofNode : Node → Except BodyRejection ChatRequest
  | .broken e => .error (.malformed "" e)
  | n@(.scalar ..) => .error (.shape "" (n.typeFault expected))
  | .array _ is tail after => items is tail after
  | .object _ members tail after => do
    let p ← members.foldlM member {}
    match tail with
    | some e =>
      -- a fault met in a member's text names the member
      let path := match members.getLast? with
        | some (key, _, _, none) => key
        | _ => ""
      .error (.malformed path e)
    | none => p.finish after

def ofBody (contentType : Option String) (body : String) : Except BodyRejection ChatRequest :=
  if !(contentType.any isJsonMediaType) then .error .notJson
  else
    let (n, rest) := Node.read body
    match ofNode n with
    | .error r => .error r
    | .ok c =>
      match rest with
      | some e => .error (.malformed "" e)
      | none => .ok c

end ChatRequest

end ResilientAgent
