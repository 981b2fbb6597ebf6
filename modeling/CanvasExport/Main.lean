import CanvasExport.CommandLine.Run
/-!
# The program

Reads the arguments and the environment, and runs on the machine (`Config.runOn`).  What a run does is
decided in `CanvasExport.CommandLine`; here is how the machine reads, writes and prints, and what is
said of failures.
-/

namespace CanvasExport.CommandLine

/-- How the program is called. -/
def usage : String :=
  "Usage: canvas-export [OPTIONS] <INPUT>\n\n" ++
  "  -o, --output <PATH>               Output file, or - for standard output\n" ++
  "      --title <TITLE>               Title of each page\n" ++
  "      --framework <NAME>            Target framework\n" ++
  "      --components-library <NAME>   Target component library\n" ++
  "      --with-presets                Also look components up among the default ones\n" ++
  "      --tokens-only                 Write only the custom tokens\n" ++
  "      --compact                     Write the result on one line\n" ++
  "  -h, --help                        Print this help\n" ++
  "  -V, --version                     Print the version"

/-- What is said of wrong arguments. -/
def UsageError.message : UsageError → String
  | .unknownArgument => "unknown argument"
  | .missingInput => "the input is missing"
  | .invalidValue => "a value is missing or empty"
  | .repeated => "an option is given twice"
  | .unexpectedValue => "a flag takes no value"
  | .help => usage
  | .version => "canvas-export 0.2.0"

/-- What is said of the cause of a failed run. -/
def RunError.causeMessage : RunError → String
  | .unreadable _ cause | .unwritable _ cause =>
      match cause with
      | .notFound => "no such file or directory"
      | .isDirectory => "is a directory"
      | .notDirectory => "not a directory"
      | .nameTooLong => "the file name is too long"
      | .invalidPath => "the path contains a null character"
      | .invalidData => "the file is not valid UTF-8"
  | .noDocument _ cause =>
      match cause with
      | .malformed => "malformed JSON"
      | .ended => "unexpected end of the JSON text"
      | .mismatch cause => cause.message
  | .conflict cause => cause.message
  | .notExported _ cause => cause.message

/-- Why a file operation failed, by the number of the error or its negation.  Any other failure ends the
program. -/
def fileError (e : IO.Error) : IO FileError :=
  match e with
  | .noFileOrDirectory .. => return .notFound
  | .inappropriateType _ code _ =>
      return if min code (0 - code) = 20 then .notDirectory else .isDirectory
  | .invalidArgument _ code _ =>
      return if min code (0 - code) = 36 then .nameTooLong else .invalidPath
  | e => throw e

/-- The machine that the program runs on. -/
def machine : Host IO where
  readText path := do
    try
      let bytes ← IO.FS.readBinFile path
      return textOf bytes
    catch e => return .error (← fileError e)
  writeText path text := do
    try
      IO.FS.writeBinFile path text.toUTF8
      return .ok ()
    catch e => return .error (← fileError e)
  print text := IO.print text

/-- Prints what failed and why. -/
def complain (what why : String) : IO Unit :=
  IO.eprintln ("Error: " ++ what ++ "\n\nCaused by:\n    " ++ why)

/-- Runs with a configuration, and gives the exit code. -/
def Config.execute (config : Config) : IO UInt32 := do
  try
    match ← config.runOn machine with
    | .ok () => return 0
    | .error e =>
        complain e.message e.causeMessage
        return 1
  catch e =>
    complain "a file operation failed" (toString e)
    return 1

end CanvasExport.CommandLine

open CanvasExport.CommandLine in
/-- Runs with the arguments, and gives the exit code. -/
def main (args : List String) : IO UInt32 := do
  let environment : Environment :=
    { title := ← IO.getEnv "PAGEBUILDER_TITLE"
      framework := ← IO.getEnv "PAGEBUILDER_FRAMEWORK"
      componentsLibrary := ← IO.getEnv "PAGEBUILDER_COMPONENTS" }
  match Config.ofArguments environment args with
  | .ok config => config.execute
  | .error e =>
      if e = .help ∨ e = .version then
        IO.println e.message
        return 0
      else
        IO.eprintln ("error: " ++ e.message ++ "\n\n" ++ usage)
        return 2
