import CanvasExport.Export.Document
import CanvasExport.Text.Blank
/-!
# Command line arguments

`Config.ofArguments` reads the arguments of a run: one input path, options with a value (`--title T`,
`--title=T`, `-o P`, `-oP`, `-o=P`), and flags.  Behind `--` all arguments are paths.  An argument
that looks like an option is never taken as the value of another one.  What has no value on the
command line may be given by the environment.

An option is only settled when the next argument has been recognized, so an unknown argument is
reported before what is wrong with the option in front of it.
-/

namespace CanvasExport.CommandLine

/-! ## Configurations -/

/-- Where the result of a run goes. -/
inductive Output
  | stdout
  | file (path : String)
  deriving DecidableEq, Repr

/-- The output that a path selects; `-` is the standard output. -/
def Output.ofPath (path : String) : Output := if path = "-" then .stdout else .file path

/-- What a run is told. -/
structure Config where
  /-- The path of the document. -/
  input : String
  output : Output
  settings : Settings := {}
  /-- Components that the document does not describe are looked up among the default ones. -/
  withPresets : Bool := false
  /-- Only the custom tokens are written. -/
  tokensOnly : Bool := false
  /-- The result is written on one line. -/
  compact : Bool := false
  deriving DecidableEq

/-- The values that the environment gives. -/
structure Environment where
  title : Option String := none
  framework : Option String := none
  componentsLibrary : Option String := none

/-! ## Arguments -/

/-- What takes a value. -/
inductive Parameter
  | input
  | output
  | title
  | framework
  | componentsLibrary
  deriving DecidableEq, Repr

/-- Whether the value is a path, which must not be empty. -/
def Parameter.isPath : Parameter → Bool
  | .input | .output => true
  | _ => false

/-- What takes none. -/
inductive Flag
  | withPresets
  | tokensOnly
  | compact
  | help
  | version
  deriving DecidableEq, Repr

/-- What an option name stands for. -/
inductive Named
  | parameter (p : Parameter)
  | flag (f : Flag)
  deriving DecidableEq, Repr

/-- The options by their long names. -/
def longNames : List (String × Named) :=
  [("output", .parameter .output), ("title", .parameter .title),
   ("framework", .parameter .framework), ("components-library", .parameter .componentsLibrary),
   ("with-presets", .flag .withPresets), ("tokens-only", .flag .tokensOnly),
   ("compact", .flag .compact), ("help", .flag .help), ("version", .flag .version)]

/-- The options by their short names. -/
def shortNames : List (Char × Named) :=
  [('o', .parameter .output), ('h', .flag .help), ('V', .flag .version)]

/-- Why the arguments give no configuration. -/
inductive UsageError
  | unknownArgument
  /-- The input is missing. -/
  | missingInput
  /-- An option without its value, or an empty path. -/
  | invalidValue
  /-- An option that is given twice. -/
  | repeated
  /-- A flag with a value. -/
  | unexpectedValue
  /-- The help is asked for. -/
  | help
  /-- The version is asked for. -/
  | version
  deriving DecidableEq, Repr

/-! ## Reading the arguments -/

/-- What has been read of the arguments. -/
structure Reading where
  /-- The parameters that are settled. -/
  values : List (Parameter × String) := []
  flags : List Flag := []
  /-- The parameter read last, which is not settled, and its value, if that has been read. -/
  pending : Option (Parameter × Option String) := none
  /-- An input has been read. -/
  hasInput : Bool := false
  /-- The arguments that follow are paths. -/
  pathsOnly : Bool := false

namespace Reading

/-- The settled value of a parameter. -/
def value? (r : Reading) (p : Parameter) : Option String := r.values.lookup p

/-- Whether a flag is given. -/
def hasFlag (r : Reading) (f : Flag) : Bool := r.flags.contains f

/-- Settles a parameter; it has a value once, and a path is not empty. -/
def give (r : Reading) (p : Parameter) (value : String) : Except UsageError Reading :=
  if (r.value? p).isSome then .error .repeated
  else if p.isPath && value.isEmpty then .error .invalidValue
  else .ok { r with values := (p, value) :: r.values }

/-- Settles the parameter read last. -/
def settle (r : Reading) : Except UsageError Reading :=
  match r.pending with
  | none => .ok r
  | some (_, none) => .error .invalidValue
  | some (p, some value) => give { r with pending := none } p value

/-- Reads an option with the value that is attached to it; without one the value is awaited. -/
def readParameter (r : Reading) (p : Parameter) (attached : Option (List Char)) :
    Except UsageError Reading := do
  let r ← r.settle
  match attached with
  | some value => r.give p (String.ofList value)
  | none => return { r with pending := some (p, none) }

/-- Reads a flag; it is given once. -/
def readFlag (r : Reading) (f : Flag) : Except UsageError Reading := do
  let r ← r.settle
  match f with
  | .help => throw .help
  | .version => throw .version
  | f => if r.hasFlag f then throw .repeated else return { r with flags := f :: r.flags }

/-- Reads a path; there is one input. -/
def readPath (r : Reading) (arg : String) : Except UsageError Reading :=
  if r.hasInput then .error .unknownArgument
  else do
    let r ← r.settle
    return { r with pending := some (.input, some arg), hasInput := true }

/-- Reads what follows two hyphens: a long name, and behind `=` a value. -/
def readLong (r : Reading) (body : List Char) : Except UsageError Reading :=
  let (name, attached) := Text.cut '=' body
  match longNames.lookup (String.ofList name), attached with
  | none, _ => .error .unknownArgument
  | some (.parameter p), attached => r.readParameter p attached
  | some (.flag f), none => r.readFlag f
  | some (.flag _), some _ => .error .unexpectedValue

/-- Reads what follows one hyphen: a short name, and behind it a value, with or without `=`.  The
short flags end the reading, so nothing behind them matters. -/
def readShort (r : Reading) (name : Char) (behind : List Char) : Except UsageError Reading :=
  match shortNames.lookup name with
  | none => .error .unknownArgument
  | some (.flag f) => r.readFlag f
  | some (.parameter p) =>
      match behind with
      | [] => r.readParameter p none
      | '=' :: value => r.readParameter p (some value)
      | value => r.readParameter p (some value)

/-- Reads an argument. -/
def step (r : Reading) (arg : String) : Except UsageError Reading :=
  if r.pathsOnly then r.readPath arg
  else match arg.toList with
    | ['-', '-'] => .ok { r with pathsOnly := true }
    | '-' :: '-' :: body => r.readLong body
    | '-' :: name :: behind => r.readShort name behind
    | _ =>
        match r.pending with
        | some (p, none) => .ok { r with pending := some (p, some arg) }
        | _ => r.readPath arg

end Reading

/-- The configuration that the arguments give, in an environment. -/
def Config.ofArguments (environment : Environment) (args : List String) :
    Except UsageError Config := do
  let r ← args.foldlM Reading.step {}
  let r ← r.settle
  match r.value? .input with
  | none => throw .missingInput
  | some input =>
      let default : Settings := {}
      let choose (p : Parameter) (given : Option String) (value : String) : String :=
        ((r.value? p).or given).getD value
      return {
        input
        output := .ofPath ((r.value? .output).getD "export.json")
        settings :=
          { framework := choose .framework environment.framework default.framework
            componentsLibrary :=
              choose .componentsLibrary environment.componentsLibrary default.componentsLibrary
            pageTitle := choose .title environment.title default.pageTitle }
        withPresets := r.hasFlag .withPresets
        tokensOnly := r.hasFlag .tokensOnly
        compact := r.hasFlag .compact }

end CanvasExport.CommandLine
