import CallStream.CommandLine

/-!
# The program

Reads the arguments and the dump, runs the command line on them and prints what it says.
-/

namespace CallStream.CommandLine

/-- How the program is used. -/
def usage : String :=
  "Usage: callstream [--summary] [--stream <INDEX>] [--keep-going] <DUMP>\n"

/-- The options that arguments ask for. -/
def parseArguments : List String → Option Options → Option Options
  | [], options => options
  | "--summary" :: rest, options =>
    parseArguments rest (options.map fun options => { options with summary := true })
  | "--keep-going" :: rest, options =>
    parseArguments rest (options.map fun options => { options with keepGoing := true })
  | "--stream" :: index :: rest, options =>
    match index.toNat? with
    | some index =>
      parseArguments rest (options.map fun options => { options with stream := some index })
    | none => none
  | path :: rest, options =>
    match options with
    | some options =>
      if options.path.isEmpty && !path.isEmpty then
        parseArguments rest (some { options with path })
      else
        none
    | none => none

/-- Reads a file, or says why it cannot be read. -/
def readDump (path : String) : IO (Except String Bytes) := do
  try
    let content ← IO.FS.readBinFile path
    pure (.ok content.toList)
  catch
    | .noFileOrDirectory _ code _ => pure (.error s!"No such file or directory (os error {code})")
    | failure => pure (.error (toString failure))

end CallStream.CommandLine

open CallStream.CommandLine in
/-- Runs the command line. -/
def main (arguments : List String) : IO UInt32 := do
  match parseArguments arguments (some { path := "" }) with
  | some options =>
    if options.path.isEmpty then
      IO.eprint usage
      pure 2
    else
      let output := run options (← readDump options.path)
      IO.print output.listing
      IO.eprint output.diagnostics
      pure output.exitCode.toUInt32
  | none =>
    IO.eprint usage
    pure 2
