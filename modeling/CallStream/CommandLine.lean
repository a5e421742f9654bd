import CallStream.Capture.Stream
import CallStream.Listing.Command

/-!
# The command line

Lists the captures of a crash dump: for each a line about it and, unless only a summary is asked
for, its commands. A stream is left at its first command that cannot be listed, unless told to keep
going.
-/

namespace CallStream.CommandLine

open Text

/-- What to list. -/
structure Options where
  /-- The path of the dump. -/
  path : String
  /-- Only the line about each stream. -/
  summary : Bool := false
  /-- Only the stream with this index. -/
  stream : Option Nat := none
  /-- Go on behind commands that cannot be listed. -/
  keepGoing : Bool := false
deriving DecidableEq, Repr

/-- Why a run failed. -/
inductive Failure where
  /-- The dump cannot be read, for a reason that the system words. -/
  | unreadable (path reason : String)
  /-- There is no stream with the index asked for. -/
  | noStream (index : Nat) (path : String) (count : Nat)
  /-- Streams were left at a command that could not be listed. -/
  | stopped (count : Nat)
deriving DecidableEq, Repr

/-- The wording of a failure, with its cause. -/
def Failure.message : Failure → String
  | unreadable path reason => s!"read {path}\n\nCaused by:\n    {reason}"
  | noStream index path count =>
    s!"stream {decimal index} not found: {path} holds {decimal count} streams"
  | stopped count =>
    s!"{decimal count} stream(s) stopped at a command that could not be decoded "
      ++ "(use --keep-going to continue past it)"

/-- What a run prints, and why it failed if it did. -/
structure Output where
  listing : String
  failure : Option Failure := none
deriving DecidableEq, Repr

namespace Output

/-- The exit status. -/
def exitCode (output : Output) : UInt8 := if output.failure.isSome then 1 else 0

/-- What is printed about a failure. -/
def diagnostics (output : Output) : String :=
  match output.failure with
  | none => ""
  | some failure => s!"Error: {failure.message}\n"

end Output

/-- The line about a stream, and a line about what is wrong with it. -/
def streamHeader (index : Nat) (stream : CapturedStream) : String :=
  s!"Stream #{decimal index}: pos={decimal stream.position}, "
    ++ s!"thread={decimal stream.threadId.toNat}, capture={decimal stream.captureId.toNat}, "
    ++ s!"timestamp={signedDecimal stream.timestamp}, commands={decimal stream.commands.length}\n"
    ++ match stream.failure with
      | none => ""
      | some cause => s!"  Error: {cause.message}\n"

/-- The listing of a command, and whether it could be listed to its end. -/
def commandText (stream index : Nat) (command : Command) : String × Bool :=
  match Listing.command command stream index (.start command.data, {}) with
  | .ok () (_, sink) => (sink.text, true)
  | .error _ (_, sink) => (sink.text, false)

/-- The listing of commands numbered from `index` on, and whether all could be listed. Without
`keepGoing` it ends with the first that could not. -/
def commandTexts (keepGoing : Bool) (stream : Nat) : (index : Nat) → List Command → String × Bool
  | _, [] => ("", true)
  | index, command :: rest =>
    let (text, listed) := commandText stream index command
    if listed || keepGoing then
      let (texts, allListed) := commandTexts keepGoing stream (index + 1) rest
      (text ++ texts, listed && allListed)
    else
      (text, false)

/-- What is printed for a stream, and whether its commands could be listed. -/
def streamText (options : Options) (index : Nat) (stream : CapturedStream) : String × Bool :=
  let header := streamHeader index stream
  if options.summary then (header, true)
  else
    let (texts, listed) := commandTexts options.keepGoing index 0 stream.commands
    (header ++ texts, listed)

/-- Whether a stream was asked for. -/
def Options.selects (options : Options) (index : Nat) : Bool := options.stream.all (· == index)

/-- Lists the captures of a dump. -/
def list (options : Options) (dump : Bytes) : Output :=
  let streams := CapturedStream.all dump
  match options.stream.filter (streams.length ≤ ·) with
  | some index => { listing := "", failure := some (.noStream index options.path streams.length) }
  | none =>
    let selected := streams.zipIdx.filter fun (_, index) => options.selects index
    let parts := selected.map fun (stream, index) => streamText options index stream
    let notice :=
      if streams.isEmpty then s!"No command streams found in {options.path}\n" else ""
    let stopped := parts.countP fun (_, listed) => !listed
    { listing := notice ++ String.join (parts.map (·.1))
      failure := if stopped > 0 && !options.keepGoing then some (.stopped stopped) else none }

/-- A run on the dump that was read, or on the reason why it could not be read. -/
def run (options : Options) (dump : Except String Bytes) : Output :=
  match dump with
  | .error reason => { listing := "", failure := some (.unreadable options.path reason) }
  | .ok dump => list options dump

end CallStream.CommandLine
