import ResilientAgent.Observe.Event
import ResilientAgent.Text.Alphanumeric
import ResilientAgent.Text.Blank

/-!
# Log filters

Which log lines are written is chosen by a filter read from text: directives separated by
commas, empty ones skipped. A directive is

* a verbosity alone (`trace`, `debug`, `info`, `warn`, `error`, `off` in any case, or a
  digit `0` to `5`), which applies everywhere;
* a target (word characters, `:` and `-`) and perhaps a span in brackets, `[name{fields}]`,
  one or two of them, then perhaps `=` and a verbosity; with no verbosity after `=`, or no
  `=` at all, everything is let through. A target that reads as a verbosity is no target.

A text holding a directive of any other shape is refused as a whole, and the filter falls back
to `info` everywhere; so does a missing text. An empty text has no directives and lets nothing
through.

A directive that names a span or a field watches spans. A span is opened only if a directive
watches it or the deciding directives let its level (`info`) through for it, and only when
that level is within the most verbose directive (every level is, once a directive asks a field
for a value); only opened spans show on a line. Inside an opened span every line up to the
most verbose of the directives that watch it (and whose wanted field values it holds) is let
through. Otherwise the directives that name no span and ask no field for a value decide by the
line alone: the most specific one whose target starts the line's target (and whose field names
the line has) decides, a later directive replacing an earlier one with the same target and
field names; a line that none speaks for is not written.
-/

namespace ResilientAgent

/-- How much a log filter lets through, from nothing to everything. -/
inductive Verbosity where
  | off
  | error
  | warn
  | info
  | debug
  | trace
  deriving DecidableEq, Inhabited

namespace Verbosity

/-- The place of a verbosity, nothing being `0` and everything `5`. -/
def rank : Verbosity → Nat
  | .off => 0
  | .error => 1
  | .warn => 2
  | .info => 3
  | .debug => 4
  | .trace => 5

/-- The verbosity of a number. -/
def ofNumber? : Nat → Option Verbosity
  | 0 => some .off
  | 1 => some .error
  | 2 => some .warn
  | 3 => some .info
  | 4 => some .debug
  | 5 => some .trace
  | _ => none

/-- The verbosity a name spells, in any case. -/
def named? (text : String) : Option Verbosity :=
  match text.toLower with
  | "off" => some .off
  | "error" => some .error
  | "warn" => some .warn
  | "info" => some .info
  | "debug" => some .debug
  | "trace" => some .trace
  | _ => none

/-- The verbosity a directive's level spells: a name, or a single digit. -/
def level? (text : String) : Option Verbosity :=
  match text.toList with
  | [c] => if c.isDigit then ofNumber? (c.toNat - '0'.toNat) else none
  | _ => named? text

/-- Whether a text reads as a verbosity the way a target is checked: a name, or digits whose
number is at most `5`, or nothing at all. -/
def readsAsLevel (text : String) : Bool :=
  text.isEmpty || (named? text).isSome ||
    (!text.isEmpty && text.all Char.isDigit &&
      (ofNumber? (text.foldl (fun n c => n * 10 + (c.toNat - '0'.toNat)) 0)).isSome)

/-- The least verbosity that lets through a line at `level`. -/
def needed : LogLevel → Nat
  | .warn => 2
  | .info => 3
  | .debug => 4

def allows (v : Verbosity) (level : LogLevel) : Bool :=
  needed level ≤ v.rank

end Verbosity

/-- A field a directive asks a span or a line for, with the value it must hold, if any. -/
structure FieldMatch where
  name : String
  value : Option String
  deriving DecidableEq, Inhabited

/-- Whether a text is a number in decimal notation: perhaps a sign, digits with at most one
point and at least one digit, then perhaps an exponent; or infinity or not-a-number spelled out
in any case. -/
def isDecimalNumber (text : String) : Bool :=
  let cs := match text.toList with
    | '+' :: rest => rest
    | '-' :: rest => rest
    | cs => cs
  let word := (String.ofList cs).toLower
  let mantissa := cs.takeWhile fun c => c != 'e' && c != 'E'
  let whole := mantissa.takeWhile Char.isDigit
  let mantissaFits := match mantissa.drop whole.length with
    | [] => !whole.isEmpty
    | '.' :: fraction => fraction.all Char.isDigit && !(whole.isEmpty && fraction.isEmpty)
    | _ => false
  let exponentFits := match cs.drop mantissa.length with
    | [] => true
    | _ :: rest =>
      let digits := match rest with
        | '+' :: ds => ds
        | '-' :: ds => ds
        | ds => ds
      !digits.isEmpty && digits.all Char.isDigit
  word == "inf" || word == "infinity" || word == "nan" || (mantissaFits && exponentFits)

/-- Whether a wanted value holds for a field of a span. A value that reads as a truth value or
a number is compared only with truth values and numbers, and the fields of spans hold text, so
it holds for none of them. -/
def FieldMatch.holdsIn (f : FieldMatch) (fields : List (String × String)) : Bool :=
  match f.value with
  | none => true
  | some wanted =>
    wanted != "true" && wanted != "false" && !isDecimalNumber wanted &&
      fields.any fun (k, v) => k == f.name && v == wanted

/-- One directive of a filter. -/
structure Directive where
  target : Option String := none
  span : Option String := none
  fields : List FieldMatch := []
  verbosity : Verbosity
  deriving Inhabited

namespace Directive

/-- Whether a directive can decide for a line by itself: it names no span and asks no field for
a value. -/
def isStatic (d : Directive) : Bool :=
  d.span.isNone && d.fields.all (·.value.isNone)

def isDynamic (d : Directive) : Bool :=
  d.span.isSome || !d.fields.isEmpty

def isTargetChar (c : Char) : Bool :=
  Text.isAlphanumeric c || c == '_' || c == ':' || c == '-'

def isWordChar (c : Char) : Bool := Text.isAlphanumeric c || c == '_'

/-- The text of one field filter at the start of `cs`, and what follows it: a word character,
then word characters and points, perhaps `=` and a value running up to a comma, and then a
comma with perhaps one blank after it, or the end of the text. -/
def fieldAt : List Char → Option (List Char × List Char)
  | [] => none
  | c :: rest =>
    if !isWordChar c then none
    else
      let more := rest.takeWhile fun d => isWordChar d || d == '.'
      let name := c :: more
      let ending (used left : List Char) : Option (List Char × List Char) :=
        match left with
        | [] => some (used, [])
        | ',' :: d :: next => if Text.isBlank d then some (used ++ [',', d], next) else some (used ++ [','], d :: next)
        | ',' :: [] => some (used ++ [','], [])
        | _ => none
      match rest.drop more.length with
      | '=' :: tail =>
        let value := tail.takeWhile (· != ',')
        if value.isEmpty then none else ending (name ++ '=' :: value) (tail.drop value.length)
      | after => ending name after

/-- A field filter from its text: the name up to the first `=`, and the value up to the next
one, if any. The comma and blank that ended the text stay on its last piece. -/
def FieldMatch.ofText (found : List Char) : FieldMatch :=
  match (String.ofList found).splitOn "=" with
  | name :: value :: _ => ⟨name, some value⟩
  | [name] => ⟨name, none⟩
  | [] => ⟨"", none⟩

/-- The field filters between the braces of a span, found from left to right; a place where
none starts is passed over. -/
def readFields (text : String) : List FieldMatch :=
  let rec go : Nat → List Char → List FieldMatch
    | 0, _ => []
    | _ + 1, [] => []
    | fuel + 1, c :: rest =>
      match fieldAt (c :: rest) with
      | some (found, after) => FieldMatch.ofText found :: go fuel after
      | none => go fuel rest
  go (text.length + 1) text.toList

/-- The name and fields of the text between a span's brackets, opening brackets left over at
its start set aside. -/
def readSpan (text : String) : Option String × List FieldMatch :=
  let inside := text.toList.dropWhile (· == '[')
  let name := String.ofList (inside.takeWhile (· != '\x7b'))
  let after := inside.drop name.length
  let fields := match after with
    | '\x7b' :: rest =>
      if rest.contains '\x7d' then readFields (String.ofList (rest.takeWhile (· != '\x7d'))) else []
    | _ => []
  (if name.isEmpty then none else some name, fields)

/-- The target and span parts at the start of a directive, one or two of them (a later part
of a kind replacing an earlier one), and the rest. -/
def readParts : Nat → List Char → Option String × Option String → Option (Option String × Option String × List Char)
  | 0, cs, (t, s) => some (t, s, cs)
  | n + 1, cs, (t, s) =>
    match cs with
    | '[' :: rest =>
      let inside := rest.takeWhile (· != ']')
      match rest.drop inside.length with
      | ']' :: after => readParts n after (t, some (String.ofList inside))
      | _ => if n == 1 then none else some (t, s, cs)
    | c :: _ =>
      if isTargetChar c then
        let name := cs.takeWhile isTargetChar
        readParts n (cs.drop name.length) (some (String.ofList name), s)
      else if n == 1 then none
      else some (t, s, cs)
    | [] => if n == 1 then none else some (t, s, [])

/-- Reads one directive. -/
def read? (text : String) : Option Directive := do
  match Verbosity.level? text with
  | some v => return { verbosity := v }
  | none =>
    let (target, span, rest) ← readParts 2 text.toList (none, none)
    let verbosity ← match rest with
      | [] => some Verbosity.trace
      | '=' :: [] => some .trace
      | '=' :: level => Verbosity.level? (String.ofList level)
      | _ => none
    let target := target.filter fun t => !Verbosity.readsAsLevel t
    let (span, fields) := match span with
      | some inside => readSpan inside
      | none => (none, [])
    return { target, span, fields, verbosity }

/-- How specific a directive is: the length of its target (none counting below an empty
one), then the number of its fields. -/
def specificity (d : Directive) : Nat × Nat :=
  ((d.target.map (·.length + 1)).getD 0, d.fields.length)

/-- Whether a directive that watches spans is about a span: its target starts the span's
target, it names the span if it names one, and the span has every field it names. -/
def caresAbout (d : Directive) (s : LogSpan) : Bool :=
  d.target.all (fun t => t.isPrefixOf s.source.target) &&
    d.span.all (· == s.name) &&
    d.fields.all fun f => s.fields.any (·.1 == f.name)

/-- Whether two directives watch the same spans in the same way, so that the later one replaces
the earlier. -/
def sameWatch (d e : Directive) : Bool :=
  d.target == e.target && d.span == e.span && d.fields == e.fields

end Directive

structure LogFilter where
  directives : List Directive
  deriving Inhabited

namespace LogFilter

def standard : LogFilter := ⟨[{ verbosity := .info }]⟩

/-- Reads a filter, falling back to the standard one when there is none or it does not read. -/
def read (text : Option String) : LogFilter :=
  match text with
  | none => standard
  | some text =>
    match ((text.splitOn ",").filter (· != "")).mapM Directive.read? with
    | some directives => ⟨directives⟩
    | none => standard

/-- Of two directives the one that decides for what both speak for: the more specific; of two
equally specific with the same target and field names the later, which replaces the earlier;
otherwise the one whose field names come last in dictionary order. -/
def decider (earlier later : Directive) : Directive :=
  let names (d : Directive) : List String := d.fields.map (·.name)
  if later.specificity.1 > earlier.specificity.1 then later
  else if later.specificity.1 < earlier.specificity.1 then earlier
  else if later.specificity.2 > earlier.specificity.2 then later
  else if later.specificity.2 < earlier.specificity.2 then earlier
  else if names later == names earlier then later
  else if decide (names earlier < names later) then later
  else earlier

/-- The directives that decide by target and field names alone: first those that do not watch
spans, then the watching ones that ask no field for a value. -/
def statics (f : LogFilter) : List Directive :=
  f.directives.filter (fun d => !d.isDynamic) ++ f.directives.filter fun d => d.isDynamic && d.isStatic

/-- The directives that watch spans, a later one replacing an earlier one that watches the same
way. -/
def dynamics (f : LogFilter) : List Directive :=
  (f.directives.filter Directive.isDynamic).foldl
    (fun kept d => kept.filter (fun e => !e.sameWatch d) ++ [d]) []

/-- The most verbose place among some directives, nothing when there are none. -/
def widest (ds : List Directive) : Nat := ds.foldl (fun m d => Nat.max m d.verbosity.rank) 0

/-- How verbose anything at all may be: everything when a directive asks a field for a value,
otherwise the most verbose directive. -/
def ceiling (f : LogFilter) : Nat :=
  if f.dynamics.any (·.fields.any (·.value.isSome)) then Verbosity.trace.rank
  else Nat.max (widest f.statics) (widest f.dynamics)

/-- The verdict of the directives that decide alone for something from `target` with the given
field names: the verbosity of the most specific one that speaks for it, if one does. -/
def verdict (f : LogFilter) (target : String) (names : List String) : Option Verbosity :=
  let speakers := f.statics.filter fun d =>
    d.target.all (fun t => t.isPrefixOf target) && d.fields.all fun m => names.contains m.name
  match speakers with
  | [] => none
  | d :: more => some (more.foldl decider d).verbosity

/-- Whether a span is opened: spans are at level `info`, which must be within the ceiling, and
either a directive watches the span or the deciding directives let `info` through for it. -/
def opens (f : LogFilter) (s : LogSpan) : Bool :=
  Verbosity.needed .info ≤ f.ceiling &&
    (f.dynamics.any (·.caresAbout s) ||
      (f.verdict s.source.target (s.fields.map (·.1))).any (·.allows .info))

/-- How verbose the lines inside an opened span may be: the most verbose of the directives that
watch it and whose wanted values it holds, nothing when there are none. -/
def within (f : LogFilter) (s : LogSpan) : Nat :=
  widest (f.dynamics.filter fun d => d.caresAbout s && d.fields.all (·.holdsIn s.fields))

/-- Whether a line is written: inside an opened span that lets its level through, or let through
by the deciding directives, a line's fields and its message being its field names. -/
def allows (f : LogFilter) (line : LogLine) : Bool :=
  line.spans.any (fun s => f.opens s && Verbosity.needed line.record.level ≤ f.within s) ||
    (f.verdict line.source.target ("message" :: line.record.fields.map (·.1))).any
      (·.allows line.record.level)

def present (f : LogFilter) (line : LogLine) : LogLine :=
  { line with spans := line.spans.filter f.opens }

end LogFilter

end ResilientAgent
