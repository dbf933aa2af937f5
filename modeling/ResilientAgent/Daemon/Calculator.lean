import ResilientAgent.Tools.Tool
import ResilientAgent.Numeral.Text

/-!
# The calculator tool

The daemon offers the model one tool, `calculator`, which evaluates an arithmetic expression
over binary64 numbers: `+`, `-`, `*`, `/`, unary minus and parentheses, with the usual
precedence, left to right within a level. Blanks are ignored. A number is a run of digits and
points that reads as a decimal. Text left over after the expression, a missing closing
parenthesis and a result that is not finite are refused, and a refusal goes back to the model
as a validation failure.

A whole result below `10^15` in size is written as an integer; any other result is written
in plain decimal notation.
-/

namespace ResilientAgent

namespace Calculator

abbrev Parse := Except String (Float × List Char)

def isNumberChar (c : Char) : Bool := c.isDigit || c == '.'

def number (cs : List Char) : Parse :=
  let text := cs.takeWhile isNumberChar
  let rest := cs.drop text.length
  let valid := text.count '.' ≤ 1 && text.any Char.isDigit
  match (if valid then Numeral.parseFloat? (String.ofList text) else none) with
  | some x => .ok (x, rest)
  | none => .error ("bad number '" ++ String.ofList text ++ "'")

mutual

def expr : Nat → List Char → Parse
  | 0, _ => .error "expression nested too deeply"
  | fuel + 1, cs => do
    let (v, rest) ← term fuel cs
    sums fuel v rest

def sums : Nat → Float → List Char → Parse
  | 0, _, _ => .error "expression nested too deeply"
  | fuel + 1, v, '+' :: rest => do
    let (r, rest) ← term fuel rest
    sums fuel (v + r) rest
  | fuel + 1, v, '-' :: rest => do
    let (r, rest) ← term fuel rest
    sums fuel (v - r) rest
  | _ + 1, v, rest => .ok (v, rest)

def term : Nat → List Char → Parse
  | 0, _ => .error "expression nested too deeply"
  | fuel + 1, cs => do
    let (v, rest) ← factor fuel cs
    products fuel v rest

def products : Nat → Float → List Char → Parse
  | 0, _, _ => .error "expression nested too deeply"
  | fuel + 1, v, '*' :: rest => do
    let (r, rest) ← factor fuel rest
    products fuel (v * r) rest
  | fuel + 1, v, '/' :: rest => do
    let (r, rest) ← factor fuel rest
    products fuel (v / r) rest
  | _ + 1, v, rest => .ok (v, rest)

def factor : Nat → List Char → Parse
  | 0, _ => .error "expression nested too deeply"
  | fuel + 1, '-' :: rest => do
    let (v, rest) ← factor fuel rest
    .ok (-v, rest)
  | fuel + 1, '(' :: rest => do
    let (v, rest) ← expr fuel rest
    match rest with
    | ')' :: after => .ok (v, after)
    | _ => .error "missing ')'"
  | _ + 1, c :: rest =>
    if isNumberChar c then number (c :: rest) else .error ("unexpected '" ++ String.singleton c ++ "'")
  | _ + 1, [] => .error "unexpected end of expression"

end

def eval (input : String) : Except String Float := do
  let tokens := input.toList.filter (!·.isWhitespace)
  let (v, rest) ← expr (4 * tokens.length + 4) tokens
  match rest with
  | c :: _ => .error ("unexpected '" ++ String.singleton c ++ "'")
  | [] => if v.isFinite then .ok v else .error "result is not a finite number"

/-- The text of a result: an integer when whole and below `10^15` in size, plain decimal
notation otherwise. -/
def format (v : Float) : String :=
  if v - v.floor == 0.0 && v.abs < 1.0e15 then
    let n := v.abs.toUInt64.toNat
    if v < 0.0 && n != 0 then "-" ++ toString n else toString n
  else Numeral.floatPlainText v

def parameters : Json :=
  .object [("title", .string "CalculatorArgs"), ("type", .string "object"),
    ("required", .array [.string "expression"]),
    ("properties", .object [("expression", .object [
      ("description", .string "Arithmetic expression using + - * / and parentheses"),
      ("type", .string "string")])])]

def arguments : Decoder String := fun n => do
  let ms ← n.recordOrItems "struct CalculatorArgs" [Node.field "expression" Node.string] ["expression"]
  return Members.getD ms "expression" Node.string ""

def tool : ToolDef :=
  ToolDef.typed "calculator" "Evaluate an arithmetic expression" parameters arguments fun expression =>
    pure (match eval expression with
      | .ok v => .ok (.string (format v))
      | .error reason => .error (.tool (.validation reason)))

end Calculator

end ResilientAgent
