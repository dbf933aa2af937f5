import ResilientAgent.Config.Toml
import ResilientAgent.Config.Env
import ResilientAgent.Daemon.Workspace
import ResilientAgent.Daemon.Address
import ResilientAgent.Text.Utf8

/-!
# Starting the daemon

Before it serves anything the daemon loads its settings, opens its database and, when it runs
the API, takes its listening address. Each step may fail, and the first failure stops the
daemon with its diagnostic.

Settings come from the file named on the command line, if any, which must read, parse and
hold valid settings; the `AGENT_*` variables are then layered over them and the result is
validated again.

The database is named by a URL: `sqlite:` or `sqlite://` (each possibly repeated) before a
file name, `:memory:` for a database in memory, and query parameters after `?`: `mode` (`ro`,
`rw`, `rwc`, `memory`), `cache` (`private`, `shared`), `immutable` (`true`, `1`, `false`, `0`)
and `vfs`, which must name a file system layer the engine knows. The file name has `%XX`
escapes that must decode to text; the parameters are decoded as a form, faults becoming
replacement characters.

The daemon opens several connections and makes its tables on them one after another, so a
database that each connection gets a copy of (one in memory with a private cache, or the
temporary one an empty file name gives) lacks the tables on the next connection. A file that
does not exist is created when its directory does; an existing file must be empty or a
database, and the daemon writes to it, so it must not be opened read-only or immutable.
-/

namespace ResilientAgent

namespace Daemon

/-! ## Database names -/

def dropLeading (pre : String) (text : String) : String :=
  let p := pre.toList
  let rec go : Nat → List Char → List Char
    | 0, cs => cs
    | fuel + 1, cs => if !p.isEmpty && p.isPrefixOf cs then go fuel (cs.drop p.length) else cs
  String.ofList (go (text.length + 1) text.toList)

/-- The bytes a text stands for once its `%XX` escapes are decoded and, in a form, `+` is a
blank. A `%` not followed by two hex digits stands for itself. -/
def percentBytes (form : Bool) (text : String) : List UInt8 :=
  let rec go : Nat → List Char → List UInt8
    | 0, _ => []
    | _ + 1, [] => []
    | fuel + 1, '%' :: a :: b :: rest =>
      match digitValue 16 a, digitValue 16 b with
      | some x, some y => (x * 16 + y).toUInt8 :: go fuel rest
      | _, _ => '%'.toString.toUTF8.toList ++ go fuel (a :: b :: rest)
    | fuel + 1, '+' :: rest => if form then 32 :: go fuel rest else 43 :: go fuel rest
    | fuel + 1, c :: rest => c.toString.toUTF8.toList ++ go fuel rest
  go (text.length + 1) text.toList

def percentDecoded (form : Bool) (text : String) : String :=
  Text.utf8Lossy (percentBytes form text)

/-- The pairs of a query: the `&`-separated parts that are not empty, each split at its first
`=`, both sides decoded. -/
def queryPairs (query : String) : List (String × String) :=
  (query.splitOn "&").filter (· != "") |>.map fun part =>
    match part.splitOn "=" with
    | [] => ("", "")
    | key :: rest => (percentDecoded true key, percentDecoded true ("=".intercalate rest))

/-- How the database is to be opened. -/
structure DatabaseName where
  /-- The file named, decoded; empty for a temporary database private to each connection. -/
  file : String
  /-- Whether the database lives in memory, one to each connection unless its cache is
  shared. -/
  inMemory : Bool := false
  sharedCache : Bool := false
  readOnly : Bool := false
  /-- Whether the file is taken never to change, so nothing may be written to it. -/
  immutable : Bool := false
  /-- The file system layer asked for by name, if one is. -/
  vfs : Option String := none

/-- Why the database could not be opened. -/
inductive DatabaseFailure where
  /-- The URL does not name a database. -/
  | configuration (message : String)
  /-- The file name is no text once its escapes are decoded. -/
  | fileName (fault : Text.Utf8Fault)
  /-- The database engine refused, with its code and text. -/
  | engine (code : Nat) (message : String)
  deriving Inhabited

def DatabaseFailure.debugText : DatabaseFailure → String
  | .configuration m => "Configuration(" ++ Text.quoted m ++ ")"
  | .fileName f => "Configuration(" ++ f.debugText ++ ")"
  | .engine code m =>
    "Database(SqliteError \x7b code: " ++ toString code ++ ", message: " ++ Text.quoted m ++ " \x7d)"

def unknownValue (key value : String) : DatabaseFailure :=
  .configuration ("unknown value " ++ Text.quoted value ++ " for `" ++ key ++ "`")

/-- Reads a database URL. `:memory:` is a database in memory whose cache is shared, so every
connection sees the same one. -/
def DatabaseName.read (url : String) : Except DatabaseFailure DatabaseName := do
  let rest := dropLeading "sqlite:" (dropLeading "sqlite://" url)
  let (database, query) := match rest.splitOn "?" with
    | [] => ("", none)
    | [d] => (d, none)
    | d :: more => (d, some ("?".intercalate more))
  let start : DatabaseName ←
    if database == ":memory:" then pure { file := "", inMemory := true, sharedCache := true }
    else match Text.utf8Strict (percentBytes false database) with
      | .ok file => pure { file }
      | .error fault => throw (.fileName fault)
  (queryPairs (query.getD "")).foldlM (fun name (key, value) =>
    match key with
    | "mode" =>
      match value with
      | "ro" => pure { name with readOnly := true }
      | "rw" | "rwc" => pure name
      | "memory" => pure { name with inMemory := true }
      | _ => throw (unknownValue "mode" value)
    | "cache" =>
      match value with
      | "private" => pure { name with sharedCache := false }
      | "shared" => pure { name with sharedCache := true }
      | _ => throw (unknownValue "cache" value)
    | "immutable" =>
      match value with
      | "true" | "1" => pure { name with immutable := true }
      | "false" | "0" => pure { name with immutable := false }
      | _ => throw (unknownValue "immutable" value)
    | "vfs" => pure { name with vfs := some value }
    | _ => throw (.configuration ("unknown query parameter `" ++ key ++ "` while parsing connection URL"))) start

/-- The path the database engine opens for a file name: names that are empty or `.` are
dropped and each `..` takes back the name before it, with no look at the file system. -/
def DatabaseName.path (name : DatabaseName) : String :=
  let absolute := name.file.startsWith "/"
  let names := (name.file.splitOn "/").foldl (fun (acc : List String) part =>
    if part == "" || part == "." then acc
    else if part == ".." then
      match acc.getLast? with
      | some last => if last == ".." then acc ++ [part] else acc.dropLast
      | none => if absolute then [] else [part]
    else acc ++ [part]) []
  if absolute then "/" ++ "/".intercalate names
  else if names.isEmpty then "." else "/".intercalate names

def cannotOpen : DatabaseFailure := .engine 14 "unable to open database file"

def readOnlyDatabase : DatabaseFailure := .engine 8 "attempt to write a readonly database"

/-- What a database private to each connection gives: the tables made on one connection are
missing on the next. -/
def missingTables : DatabaseFailure := .engine 1 "no such table: main.jobs"

/-- The file system layers the engine knows: the usual ones for files, and one that keeps a
database in memory. -/
def knownLayers : List String := ["unix", "unix-none", "unix-dotfile", "unix-excl", "memdb"]

/-- Opens a database, given what its file's path names and whether the directory for a new
file exists; or says why it cannot be opened. A file system layer must be known; the layer
that keeps a database in memory gives each connection its own. A database in memory or a
temporary one is private to each connection unless its cache is shared. -/
def openDatabase (name : DatabaseName) (target : Except IoFailure Entry) (parentExists : Bool) :
    Except DatabaseFailure Unit :=
  if let some layer := name.vfs.filter (!knownLayers.contains ·) then
    .error (.engine 1 ("no such vfs: " ++ layer))
  else if name.vfs == some "memdb" then
    if name.readOnly then .error readOnlyDatabase else .error missingTables
  else if name.inMemory then
    if name.readOnly then .error readOnlyDatabase
    else if name.sharedCache then .ok ()
    else .error missingTables
  else if name.file.isEmpty then
    if name.readOnly then .error readOnlyDatabase else .error missingTables
  else
    match target with
    | .ok (.file text) =>
      if !text.isEmpty then .error (.engine 26 "file is not a database")
      else if name.readOnly || name.immutable then .error readOnlyDatabase
      else .ok ()
    | .ok .directory => .error cannotOpen
    | .error _ =>
      if name.readOnly || !parentExists then .error cannotOpen
      else if name.immutable then .error readOnlyDatabase
      else .ok ()

/-! ## Launching -/

/-- Why the daemon stopped before serving. -/
inductive LaunchFailure where
  /-- The settings were refused. -/
  | config (message : String)
  /-- The settings file could not be read. -/
  | io (failure : IoFailure)
  /-- The database could not be opened. -/
  | database (failure : DatabaseFailure)
  /-- The API could not listen. -/
  | bind (failure : BindFailure)
  deriving Inhabited

def LaunchFailure.debugText : LaunchFailure → String
  | .config m => "Config(" ++ Text.quoted m ++ ")"
  | .io f => "Io(" ++ f.debugText ++ ")"
  | .database f => "Database(" ++ f.debugText ++ ")"
  | .bind f => f.debugText

def LaunchFailure.ofError : AgentError → LaunchFailure
  | .config m => .config m
  | e => .config e.display

/-- The settings: those of the settings file, if one is named (given here as its text or why
it cannot be read), with the variables layered over them. -/
def loadConfig (settings : Option (Except IoFailure String)) (env : String → Option String) :
    Except LaunchFailure RuntimeConfig := do
  let base ← match settings with
    | none => pure {}
    | some file =>
      let text ← file.mapError .io
      let c ← (RuntimeConfig.ofTomlText text).mapError .config
      c.validate.mapError .ofError
      pure c
  let c ← (base.applyEnv env).mapError .ofError
  c.validate.mapError .ofError
  return c

end Daemon

end ResilientAgent
