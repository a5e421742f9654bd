/-!
# Where text goes

A text sink takes text piece by piece. It may have a limit; then the first piece that would pass the
limit breaks the sink, and a broken sink takes nothing more.

## Main results

- `write_of_broken`: a broken sink stays as it is.
- `write_unbounded`: a sink without a limit takes everything.
-/

namespace CallStream

/-- A receiver of text. -/
structure TextSink where
  text : String := ""
  /-- The most bytes of UTF-8 that the sink takes. -/
  limit : Option Nat := none
  /-- A piece was refused. -/
  broken : Bool := false
deriving DecidableEq, Repr

namespace TextSink

/-- Whether a piece stays within the limit. -/
def hasRoom (sink : TextSink) (piece : String) : Bool :=
  sink.limit.all fun limit => sink.text.utf8ByteSize + piece.utf8ByteSize ≤ limit

/-- Offers a piece of text. Returns the sink afterwards and whether it took the piece. -/
def write (sink : TextSink) (piece : String) : TextSink × Bool :=
  if !sink.broken && sink.hasRoom piece then ({ sink with text := sink.text ++ piece }, true)
  else ({ sink with broken := true }, false)

/-- A sink that has failed takes nothing more. -/
theorem write_of_broken {sink : TextSink} (h : sink.broken = true) (piece : String) :
    sink.write piece = (sink, false) := by
  cases sink
  simp_all [write]

/-- A sink without a limit takes every piece. -/
theorem write_unbounded (text piece : String) :
    write { text } piece = ({ text := text ++ piece }, true) := rfl

end TextSink

end CallStream
