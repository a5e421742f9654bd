import CallStream.Bytes
import CallStream.Text.Number

/-!
# Hexadecimal dumps

Bytes as pairs of digits with spaces between them, as many in a line as fit. A mark at the end says
that bytes are missing; it stands in the last line if it fits there, and else in a line of its own.

## Main results

- `flatten_wrap`: breaking into lines loses nothing and keeps the order.
-/

namespace CallStream.HexDump

/-- The width of a line: sixteen bytes, each with a space. -/
def lineWidth : Nat := 16 * 3

/-- The mark that stands for missing bytes. -/
def truncationMark : String := "[...]"

/-- The text of a line. -/
def lineText (line : List String) : String := " ".intercalate line

/-- Breaks words into lines no wider than `width`, each as long as possible; `line` is the line
begun. A word that is too wide has a line of its own. -/
def wrap (width : Nat) (line : List String) : List String → List (List String)
  | [] => if line.isEmpty then [] else [line]
  | word :: rest =>
    if line.isEmpty || (lineText line).length + 1 + word.length ≤ width then
      wrap width (line ++ [word]) rest
    else
      line :: wrap width [word] rest

/-- The words of a dump. -/
def words (bytes : Bytes) (truncated : Bool) : List String :=
  bytes.map Text.hexByte ++ (if truncated then [truncationMark] else [])

/-- The lines of a dump. -/
def lines (bytes : Bytes) (truncated : Bool) : List String :=
  (wrap lineWidth [] (words bytes truncated)).map lineText

/-- Breaking into lines loses nothing and keeps the order. -/
theorem flatten_wrap (width : Nat) (line rest : List String) :
    (wrap width line rest).flatten = line ++ rest := by
  induction rest generalizing line with
  | nil =>
    unfold wrap
    split
    · next hisEmpty => simp_all
    · simp
  | cons word rest ih =>
    unfold wrap
    split
    · rw [ih]
      simp
    · rw [List.flatten_cons, ih]
      simp

end CallStream.HexDump
