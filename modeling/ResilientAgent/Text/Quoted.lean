import ResilientAgent.Text.GraphemeExtend
import ResilientAgent.Text.Printable

/-!
# Quoted text in messages

Messages quote text between double quotes so that a reader sees every character: a quote, a
backslash, tab, carriage return, line feed and NUL are written as `\"`, `\\`, `\t`, `\r`,
`\n`, `\0`; characters that do not print, and those that would extend the character before
them, are written as `\u{hex}` with lower-case hex digits and no leading zeros; everything else
stands as it is.
-/

namespace ResilientAgent.Text

def hexDigits (n : Nat) : String := String.ofList (Nat.toDigits 16 n)

def unicodeEscape (c : Char) : String :=
  "\\u" ++ String.singleton (Char.ofNat 0x7b) ++ hexDigits c.toNat ++ String.singleton (Char.ofNat 0x7d)

/-- A character as it appears inside quoted text. -/
def quoteChar (c : Char) : String :=
  match c with
  | '"' => "\\\""
  | '\\' => "\\\\"
  | '\t' => "\\t"
  | '\r' => "\\r"
  | '\n' => "\\n"
  | c =>
    if c.toNat == 0 then "\\0"
    else if isGraphemeExtend c || !isPrintable c then unicodeEscape c
    else String.singleton c

def quoted (s : String) : String :=
  "\"" ++ String.join (s.toList.map quoteChar) ++ "\""

end ResilientAgent.Text
