import CallStream.Text.CharClass.Basic
import CallStream.Text.Number

/-!
# Quoted text

A text between double quotes, on one line and in visible characters only: what has no printed form
of its own is written as an escape.
-/

namespace CallStream.Text

/-- A character by its code point, as in `\u{301}`. -/
def escapeCodePoint (c : Char) : String := "\\u\x7b" ++ hex c.toNat ++ "\x7d"

/-- A character inside double quotes. A single quote stands for itself. -/
def quoteChar (c : Char) : String :=
  match c with
  | '\x00' => "\\0"
  | '\t' => "\\t"
  | '\r' => "\\r"
  | '\n' => "\\n"
  | '"' => "\\\""
  | '\\' => "\\\\"
  | _ => if standsAlone c then String.singleton c else escapeCodePoint c

/-- A text between double quotes. -/
def quoted (text : String) : String :=
  "\"" ++ String.join (text.toList.map quoteChar) ++ "\""

end CallStream.Text
