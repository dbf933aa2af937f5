import ResilientAgent.Text.Quoted

/-!
# The working directory

The daemon reads its settings file and its environment file from the directory it runs in, and
keeps its database there. The directory is given by its files, each under its path relative to
it; its directories are those that hold a file, and the directory itself.

A path is resolved one component at a time, as the system does: `.` stays, `..` climbs, and
every name before the last must be a directory. Above the working directory nothing is known,
so every name there is missing. An absolute path names a file of the system, of which only the
root, the temporary directory and the null device are known.
-/

namespace ResilientAgent

namespace Daemon

/-- A failure of the system while reading a file. -/
inductive IoFailure where
  | notFound
  | notDirectory
  | isDirectory
  deriving DecidableEq, Inhabited

namespace IoFailure

def code : IoFailure → Nat
  | .notFound => 2
  | .notDirectory => 20
  | .isDirectory => 21

def kind : IoFailure → String
  | .notFound => "NotFound"
  | .notDirectory => "NotADirectory"
  | .isDirectory => "IsADirectory"

def text : IoFailure → String
  | .notFound => "No such file or directory"
  | .notDirectory => "Not a directory"
  | .isDirectory => "Is a directory"

def debugText (f : IoFailure) : String :=
  "Os \x7b code: " ++ toString f.code ++ ", kind: " ++ f.kind ++ ", message: " ++
    Text.quoted f.text ++ " \x7d"

end IoFailure

/-- What a path names. -/
inductive Entry where
  | file (text : String)
  | directory
  deriving Inhabited

structure Workspace where
  files : List (String × String) := []
  deriving Inhabited

def pathSteps (path : String) : List String := (path.splitOn "/").filter (· != "")

def systemEntry : List String → Option Entry
  | [] => some .directory
  | ["tmp"] => some .directory
  | ["dev"] => some .directory
  | ["dev", "null"] => some (.file "")
  | _ => none

namespace Workspace

def entries (ws : Workspace) : List (List String × String) :=
  ws.files.map fun (path, text) => ((pathSteps path).filter (· != "."), text)

def entry (ws : Workspace) (names : List String) : Option Entry :=
  match ws.entries.find? (·.1 == names) with
  | some (_, text) => some (.file text)
  | none =>
    if names.isEmpty || ws.entries.any fun (k, _) => names.isPrefixOf k && names.length < k.length then
      some .directory
    else none

/-- Where a walk along a path stands: at the names from its start, or `above` levels over the
working directory, where nothing but directories is known. -/
structure Walk where
  names : List String := []
  above : Nat := 0

/-- Walks the steps of a path from a start where `lookup` tells what the names lead to;
`climbs` tells whether `..` may rise above the start. -/
def walk (lookup : List String → Option Entry) (climbs : Bool) :
    Walk → List String → Except IoFailure Walk
  | at_, [] => .ok at_
  | at_, step :: rest => do
    if at_.above == 0 then
      match lookup at_.names with
      | some .directory => pure ()
      | some (.file _) => throw .notDirectory
      | none => throw .notFound
    match step with
    | "." => walk lookup climbs at_ rest
    | ".." =>
      if at_.names.isEmpty then
        walk lookup climbs { at_ with above := if climbs then at_.above + 1 else 0 } rest
      else walk lookup climbs { at_ with names := at_.names.dropLast } rest
    | name =>
      if at_.above > 0 then throw .notFound
      else walk lookup climbs { at_ with names := at_.names ++ [name] } rest

def resolve (ws : Workspace) (path : String) : Except IoFailure Entry := do
  let absolute := path.startsWith "/"
  let lookup := if absolute then systemEntry else ws.entry
  let end_ ← walk lookup (!absolute) {} (pathSteps path)
  let found ← if end_.above > 0 then pure Entry.directory
    else match lookup end_.names with
      | some e => pure e
      | none => throw .notFound
  match found with
  | .file _ => if path.endsWith "/" then throw .notDirectory else pure found
  | .directory => pure found

end Workspace

abbrev Probe (m : Type → Type) := String → m (Except IoFailure Entry)

namespace Probe

variable {m : Type → Type} [Monad m]

def read (probe : Probe m) (path : String) : m (Except IoFailure String) := do
  return match ← probe path with
    | .ok (.file text) => .ok text
    | .ok .directory => .error .isDirectory
    | .error e => .error e

def parentOf (path : String) : String :=
  match (path.splitOn "/").dropLast with
  | [] => "."
  | [""] => "/"
  | parts => "/".intercalate parts

def hasParent (probe : Probe m) (path : String) : m Bool := do
  return match ← probe (parentOf path) with
    | .ok .directory => true
    | _ => false

end Probe

def Workspace.probe (ws : Workspace) : Probe Id := fun path => ws.resolve path

end Daemon

end ResilientAgent
