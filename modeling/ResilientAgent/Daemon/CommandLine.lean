import ResilientAgent.Text.Similarity

/-!
# The daemon's command line

`agentd` takes one subcommand: `serve` (the API, the workers and the reaper), `api` (the API
alone) or `worker` (the workers and the reaper), and a global `--config <CONFIG>` naming a
settings file, which may also come from the variable `AGENT_CONFIG`. `worker` also takes
`--concurrency <CONCURRENCY>`, a count that overrides the configured number of workers.
`-h`/`--help` prints the help of the command it is given to, and `help` followed by
subcommand names prints the help of the last one.

Arguments are read from left to right, as the usual command-line reader for this interface
does:

* an option takes its value after `=` or from the next token, unless that token looks like
  an option itself or is `--`; a token taken as a value is taken even when it names a
  subcommand or `help`;
* otherwise a token naming a subcommand starts it, except after `--`, past which every token
  is a plain argument;
* a value is checked once the next option arrives or the arguments end, so a later unknown
  option is reported first, while a later `--help` is not;
* an option given twice, an option left without a value, a count that does not read, an
  unknown option and a plain argument where none is taken are refused, with the usage of the
  command and, for a near miss, a suggestion of what was meant; the usage of an unknown long
  option names the options given so far and the one suggested in place of `[OPTIONS]`;
* with no subcommand the help is printed as a refusal when nothing at all was given
  (the variable counts as given), and otherwise the missing subcommand is refused.

A value given to the subcommand wins over one given before it, and either over the
variable. Help is printed on the standard output; refusals go to the standard error and end
the program with status 2.
-/

namespace ResilientAgent

namespace Daemon

/-- An option that takes one value. -/
structure ValueOption where
  long : String
  valueName : String
  help : String
  /-- The variable that supplies the value when the option is not given. -/
  env : Option String := none
  deriving DecidableEq, Inhabited

def ValueOption.spec (o : ValueOption) : String := "--" ++ o.long ++ " <" ++ o.valueName ++ ">"

/-- What the daemon runs. -/
inductive Mode where
  | serve
  | api
  | worker
  deriving DecidableEq, Inhabited

def Mode.runsApi : Mode → Bool
  | .serve | .api => true
  | .worker => false

def Mode.runsWorkers : Mode → Bool
  | .serve | .worker => true
  | .api => false

/-- A subcommand: the mode it selects, its name, what it does and its own options. -/
structure Subcommand where
  mode : Mode
  name : String
  about : String
  options : List ValueOption
  deriving Inhabited

def programName : String := "agentd"

def programAbout : String := "Resilient agent execution service"

def configOption : ValueOption :=
  { long := "config", valueName := "CONFIG", help := "TOML configuration file", env := some "AGENT_CONFIG" }

def concurrencyOption : ValueOption :=
  { long := "concurrency", valueName := "CONCURRENCY", help := "Overrides `worker.concurrency`" }

def subcommands : List Subcommand :=
  [⟨.serve, "serve", "API, workers and reaper in one process", []⟩,
   ⟨.api, "api", "HTTP API only", []⟩,
   ⟨.worker, "worker", "Workers and reaper only", [concurrencyOption]⟩]

def helpAbout : String := "Print this message or the help of the given subcommand(s)"

def subcommandNames : List String := subcommands.map (·.name) ++ ["help"]

/-! ## Help -/

def columns (rows : List (String × String)) : List String :=
  let width := rows.foldl (fun w (left, _) => Nat.max w left.length) 0
  rows.map fun (left, right) =>
    "  " ++ left ++ String.ofList (List.replicate (width - left.length) ' ') ++ "  " ++ right

/-- The rows of a command's options, the help flag last; an option read from a variable shows
the variable and its current value. -/
def optionRows (env : String → Option String) (options : List ValueOption) : List (String × String) :=
  options.map (fun o =>
    ("    " ++ o.spec, o.help ++ match o.env with
      | some name => " [env: " ++ name ++ "=" ++ (env name).getD "" ++ "]"
      | none => "")) ++
  [("-h, --help", "Print help")]

def printed (lines : List String) : String := String.join (lines.map (· ++ "\n"))

/-- The commands of the interface, each with the usage line and the help it prints. -/
inductive Level where
  | top
  | sub (s : Subcommand)
  | help
  deriving Inhabited

namespace Level

def options : Level → List ValueOption
  | .top => [configOption]
  | .sub s => s.options ++ [configOption]
  | .help => []

def usage : Level → String
  | .top => "Usage: " ++ programName ++ " [OPTIONS] <COMMAND>"
  | .sub s => "Usage: " ++ programName ++ " " ++ s.name ++ " [OPTIONS]"
  | .help => "Usage: " ++ programName ++ " help [COMMAND]..."

/-- The usage line of a command that names the options already given, in the order they came,
in place of `[OPTIONS]`; with none given it is the plain usage line. -/
def usageWith (level : Level) (used : List String) : String :=
  if used.isEmpty then level.usage
  else match level with
    | .top => "Usage: " ++ programName ++ " " ++ " ".intercalate used ++ " <COMMAND>"
    | .sub s => "Usage: " ++ programName ++ " " ++ s.name ++ " " ++ " ".intercalate used
    | .help => level.usage

def hasHelpFlag : Level → Bool
  | .help => false
  | _ => true

def helpText (env : String → Option String) : Level → String
  | .top =>
    printed ([programAbout, "", usage .top, "", "Commands:"] ++
      columns (subcommands.map (fun s => (s.name, s.about)) ++ [("help", helpAbout)]) ++
      ["", "Options:"] ++ columns (optionRows env (options .top)))
  | .sub s =>
    printed ([s.about, "", usage (.sub s), "", "Options:"] ++
      columns (optionRows env (options (.sub s))))
  | .help =>
    printed [helpAbout, "", usage .help, "", "Arguments:",
      "  [COMMAND]...  Print help for the subcommand(s)"]

end Level

/-! ## Refusals -/

/-- A refusal: the fault, the tips, the usage of the command if it is shown (naming the
options in `used`), and the pointer to the help where the command has a help flag. -/
def refusal (level : Level) (message : String) (tips : List String := []) (showUsage : Bool := true)
    (used : List String := []) : String :=
  "error: " ++ message ++ (if tips.isEmpty then "" else "\n" ++ String.join (tips.map ("\n  tip: " ++ ·))) ++
    (if showUsage then "\n\n" ++ level.usageWith used else "") ++
    (if level.hasHelpFlag then "\n\nFor more information, try '--help'.\n" else "\n")

def quotedList (names : List String) : String := ", ".intercalate (names.map fun n => "'" ++ n ++ "'")

def similarSubcommandTip (names : List String) : String :=
  match names with
  | [name] => "a similar subcommand exists: '" ++ name ++ "'"
  | _ => "some similar subcommands exist: " ++ quotedList names

def readCount (text : String) : Except String Nat :=
  let tooLarge := "number too large to fit in target type"
  let digits : Option (List Char) := match text.toList with
    | [] => some []
    | ['+'] | ['-'] => none
    | '+' :: rest => some rest
    | cs => some cs
  if text.isEmpty then .error "cannot parse integer from empty string"
  else match digits with
    | none => .error "invalid digit found in string"
    | some cs =>
      cs.foldlM (fun acc c =>
        if !c.isDigit then .error "invalid digit found in string"
        else
          let next := acc * 10 + (c.toNat - '0'.toNat)
          if acc * 10 ≥ Nat.pow 2 64 || next ≥ Nat.pow 2 64 then .error tooLarge else .ok next) 0

/-! ## Reading -/

/-- The options of one command read so far. -/
structure Matched where
  /-- The values taken, by option, in the order they came. -/
  values : List (String × String) := []
  /-- The option given last and the values it has taken, not yet checked. -/
  pending : Option (ValueOption × List String) := none
  /-- Whether the next token is the pending option's value. -/
  awaiting : Bool := false
  /-- Whether `--` was met, after which every token is a plain argument. -/
  trailing : Bool := false
  /-- The options met so far, as the usage line shows them, each once in the order they came. -/
  used : List String := []
  deriving Inhabited

def Matched.use (m : Matched) (spec : String) : Matched :=
  if m.used.contains spec then m else { m with used := m.used ++ [spec] }

def Matched.value? (m : Matched) (long : String) : Option String := (m.values.find? (·.1 == long)).map (·.2)

def emptyValue (level : Level) (o : ValueOption) : String :=
  refusal level ("a value is required for '" ++ o.spec ++ "' but none was supplied") [] false

/-- The refusal of a configuration path taken from an empty variable, when the command line
gave none. -/
def emptyConfigVariable (env : String → Option String) (level : Level) (m : Matched) : Option String :=
  if (m.value? configOption.long).isNone && env "AGENT_CONFIG" == some "" then
    some (emptyValue level configOption)
  else none

/-- Checks the pending option: it must have a value, must not have been given before, and a
count must read. -/
def Matched.settle (m : Matched) (level : Level) : Except String Matched :=
  match m.pending with
  | none => .ok m
  | some (o, values) =>
    match values with
    | [] => .error (emptyValue level o)
    | value :: _ =>
      if (m.value? o.long).isSome then
        .error (refusal level ("the argument '" ++ o.spec ++ "' cannot be used multiple times"))
      else if value.isEmpty && o.long == configOption.long then .error (emptyValue level o)
      else if o.long == concurrencyOption.long then
        match readCount value with
        | .error reason =>
          .error (refusal level ("invalid value '" ++ value ++ "' for '" ++ o.spec ++ "': " ++ reason)
            [] false)
        | .ok _ => .ok { m with values := m.values ++ [(o.long, value)], pending := none }
      else .ok { m with values := m.values ++ [(o.long, value)], pending := none }

/-- Why reading stopped early. -/
inductive Stop where
  /-- Help was asked for: it is printed on the standard output. -/
  | help (text : String)
  /-- The command line was refused: the refusal is printed on the standard error. -/
  | refused (text : String)
  deriving Inhabited

/-- The command a chain of names after `help` designates, and its help; an unknown name is
refused with the usage of the command reached so far. -/
def helpFor (env : String → Option String) : Level → List String → Stop
  | level, [] => .help (level.helpText env)
  | .top, name :: rest =>
    if name == "help" then helpFor env .help rest
    else match subcommands.find? (·.name == name) with
      | some s => helpFor env (.sub s) rest
      | none => .refused (refusal .top ("unrecognized subcommand '" ++ name ++ "'"))
  | level, name :: _ => .refused (refusal level ("unrecognized subcommand '" ++ name ++ "'"))

/-- The refusal of an unknown long option, with the known option closest to it, or else the
closest option of a subcommand named later on the command line. The usage names the options
given so far and the one suggested. -/
def unknownLong (level : Level) (m : Matched) (name : String) (rest : List String) : String :=
  let longs := level.options.map ValueOption.long ++ ["help"]
  let message := "unexpected argument '--" ++ name ++ "' found"
  match (Text.similarNames name longs).getLast? with
  | some best =>
    let spec := match level.options.find? (·.long == best) with
      | some o => o.spec
      | none => "--help"
    refusal level message ["a similar argument exists: '--" ++ best ++ "'"] true (m.use spec).used
  | none =>
    let here := match level with
      | .top => subcommands.filterMap fun s =>
        match (Text.similarNames name ((Level.sub s).options.map ValueOption.long ++ ["help"])).getLast?,
            rest.idxOf? s.name with
        | some best, some at_ => some (at_, s.name, best)
        | _, _ => none
      | _ => []
    match (here.mergeSort fun a b => a.1 ≤ b.1).head? with
    | some (_, sub, best) => refusal level message ["'" ++ sub ++ " --" ++ best ++ "' exists"] true m.used
    | none => refusal level message [] true m.used

/-- The refusal of a plain argument where a command takes none: at the top it is an unknown
subcommand (or one hidden behind `--`), elsewhere an unexpected argument. -/
def unexpectedPlain (level : Level) (token : String) (trailing : Bool) : String :=
  match level with
  | .top =>
    if trailing && subcommandNames.contains token then
      refusal .top ("unexpected argument '" ++ token ++ "' found")
        ["subcommand '" ++ token ++ "' exists; to use it, remove the '--' before it"]
    else
      match Text.similarNames token subcommandNames with
      | [] => refusal .top ("unrecognized subcommand '" ++ token ++ "'")
      | names => refusal .top ("unrecognized subcommand '" ++ token ++ "'") [similarSubcommandTip names]
  | _ => refusal level ("unexpected argument '" ++ token ++ "' found")

def settleOrStop (m : Matched) (level : Level) : Except Stop Matched :=
  (m.settle level).mapError .refused

/-- Reads the tokens of one command: what it matched, and the subcommand met with the tokens
after it, if any. -/
def scan (env : String → Option String) (level : Level) :
    Matched → List String → Except Stop (Matched × Option (Subcommand × List String))
  | m, [] => .ok (m, none)
  | m, token :: rest =>
    if m.trailing then .error (.refused (unexpectedPlain level token true))
    else if m.awaiting && token != "--" && !(token.startsWith "-" && token.length > 1) then
      -- an option waiting for its value takes the next plain token, whatever it names
      match m.pending with
      | some (o, values) => scan env level { m with pending := some (o, values ++ [token]), awaiting := false } rest
      | none => .error (.refused (unexpectedPlain level token false))
    else match level, subcommands.find? (·.name == token) with
    | .top, some s => .ok (m, some (s, rest))
    | _, _ =>
      if level matches .top && token == "help" then .error (helpFor env .top rest)
      else if token == "--" then scan env level { m with trailing := true } rest
      else if token.startsWith "--" then
        let body := (token.drop 2).toString
        let name := (body.splitOn "=").headD ""
        let attached : Option String :=
          if (body.splitOn "=").length > 1 then some (String.ofList (body.toList.drop (name.length + 1)))
          else none
        if name == "help" then
          match attached with
          | some v =>
            .error (.refused (refusal level ("unexpected value '" ++ v ++ "' for '--help' found; no more were expected")
              [] true (m.use "--help").used))
          | none => do
            let _ ← settleOrStop m level
            .error (.help (level.helpText env))
        else match level.options.find? (·.long == name) with
          | some o => do
            let m ← settleOrStop m level
            let m := m.use o.spec
            match attached with
            | some v =>
              let m ← settleOrStop { m with pending := some (o, [v]) } level
              scan env level { m with awaiting := false } rest
            | none => scan env level { m with pending := some (o, []), awaiting := true } rest
          | none => .error (.refused (unknownLong level m name rest))
      else if token.startsWith "-" && token.length > 1 then
        match token.toList with
        | _ :: 'h' :: _ => do
          let _ ← settleOrStop m level
          .error (.help (level.helpText env))
        | _ :: c :: _ => .error (.refused (refusal level ("unexpected argument '-" ++ String.singleton c ++ "' found")))
        | _ => .error (.refused (unexpectedPlain level token false))
      else if m.awaiting then
        match m.pending with
        | some (o, values) => scan env level { m with pending := some (o, values ++ [token]), awaiting := false } rest
        | none => .error (.refused (unexpectedPlain level token false))
      else .error (.refused (unexpectedPlain level token false))

/-- What the command line asks the daemon to do. -/
structure CommandLine where
  mode : Mode
  config : Option String
  concurrency : Option Nat
  deriving Inhabited

/-- The outcome of reading a command line. -/
inductive Reading where
  /-- Run as asked. -/
  | run (line : CommandLine)
  /-- Print this help on the standard output and stop. -/
  | help (text : String)
  /-- Print this refusal on the standard error and stop with status 2. -/
  | refused (text : String)
  deriving Inhabited

def CommandLine.read (env : String → Option String) (args : List String) : Reading :=
  let stop : Stop → Reading
    | .help t => .help t
    | .refused t => .refused t
  match scan env .top {} args with
  | .error s => stop s
  | .ok (top, none) =>
    match top.settle .top with
    | .error t => .refused t
    | .ok top =>
      if let some t := emptyConfigVariable env .top top then .refused t
      else if top.values.isEmpty && (env "AGENT_CONFIG").isNone then .refused (Level.top.helpText env)
      else .refused (refusal .top ("'" ++ programName ++ "' requires a subcommand but one was not provided\n  [subcommands: " ++
        ", ".intercalate subcommandNames ++ "]"))
  | .ok (top, some (s, rest)) =>
    match scan env (.sub s) {} rest with
    | .error stopped => stop stopped
    | .ok (sub, _) =>
      -- the subcommand's options are settled first, its variable read, then the same for the
      -- command before it
      match sub.settle (.sub s) with
      | .error t => .refused t
      | .ok sub =>
      if let some t := emptyConfigVariable env (.sub s) sub then .refused t else
      match top.settle .top with
      | .error t => .refused t
      | .ok top =>
        if let some t := emptyConfigVariable env .top top then .refused t else
        let config := (sub.value? configOption.long).orElse fun _ =>
          (top.value? configOption.long).orElse fun _ => env "AGENT_CONFIG"
        let concurrency := (sub.value? concurrencyOption.long).bind fun v => (readCount v).toOption
        .run ⟨s.mode, config, concurrency⟩

end Daemon

end ResilientAgent
