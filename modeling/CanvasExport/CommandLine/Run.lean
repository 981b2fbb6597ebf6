import CanvasExport.Artifact.Json
import CanvasExport.CommandLine.Arguments
import CanvasExport.CommandLine.Directory
import CanvasExport.Document.Json
/-!
# Runs

A run reads a document, exports it and writes the artifact, or only its custom tokens, on one line or
indented.  Nothing is written where a step fails.  What a run does is the same on any `Host`: the program
runs on the machine itself (`Config.runOn`), and `Config.run` on the files of a `Directory`.
-/

namespace CanvasExport.CommandLine

/-! ## Errors -/

/-- Why a run fails, with the path in question. -/
inductive RunError
  | unreadable (path : String) (cause : FileError)
  | noDocument (path : String) (cause : Json.ReadError)
  | conflict (cause : DescriptorConflict)
  | notExported (path : String) (cause : ExportError)
  | unwritable (path : String) (cause : FileError)
  deriving DecidableEq

/-- What the run could not do. -/
def RunError.message : RunError → String
  | .unreadable path _ => "failed to read " ++ path
  | .noDocument path _ => "failed to parse document " ++ path
  | .conflict _ => "conflicting component descriptors in document"
  | .notExported path _ => "failed to export " ++ path
  | .unwritable path _ => "failed to write " ++ path

/-! ## From a document to its artifact -/

/-- The registry for a document: its own descriptors, and with presets the default ones of the other
tags. -/
def registryFor (d : Document) (withPresets : Bool) : Except DescriptorConflict Registry := do
  let registry ← d.registry?
  return if withPresets then registry.merge .launch else registry

namespace Config

/-- The artifact of a document. -/
def artifactOf (config : Config) (d : Document) : Except RunError Artifact := do
  let registry ← (registryFor d config.withPresets).mapError .conflict
  (d.exportFresh config.settings registry).mapError (.notExported config.input)

/-- The text that a run writes for an artifact. -/
def renderArtifact (config : Config) (a : Artifact) : String :=
  let layout := if config.compact then Json.Layout.compact else .indented
  if config.tokensOnly then a.tokens.render layout else a.render layout

/-- The text that a run writes for the text of a document. -/
def render (config : Config) (text : String) : Except RunError String := do
  let document ← (Document.parse text).mapError (.noDocument config.input)
  return config.renderArtifact (← config.artifactOf document)

end Config

/-! ## Reading and writing -/

/-- What a run asks of the machine that it runs on; `m` says what the answers depend on, and what else
comes of asking. -/
structure Host (m : Type → Type) where
  /-- The text of the file that a path leads to. -/
  readText (path : String) : m (Except FileError String)
  /-- Writes a text file, created or replaced. -/
  writeText (path text : String) : m (Except FileError Unit)
  /-- Prints a text on the standard output. -/
  print (text : String) : m Unit

namespace Config

section

variable {m : Type → Type} [Monad m]

/-- The text that a run writes, from its input. -/
def renderOn (config : Config) (host : Host m) : m (Except RunError String) := do
  match ← host.readText config.input with
  | .ok text => return config.render text
  | .error e => return .error (.unreadable config.input e)

/-- Writes a text to the output of a run.  On the standard output a line break follows it. -/
def writeOn (config : Config) (host : Host m) (text : String) : m (Except RunError Unit) := do
  match config.output with
  | .stdout =>
      host.print (text ++ "\n")
      return .ok ()
  | .file path => return (← host.writeText path text).mapError (.unwritable path)

/-- Runs on a host. -/
def runOn (config : Config) (host : Host m) : m (Except RunError Unit) := do
  match ← config.renderOn host with
  | .ok text => config.writeOn host text
  | .error e => return .error e

end

end Config

/-! ## Runs in a directory -/

/-- What a run can reach in a directory, and what it has printed. -/
structure Surroundings where
  /-- The files. -/
  directory : Directory
  /-- What is printed so far. -/
  stdout : String := ""

/-- The host that has the files of a directory. -/
def Directory.host : Host (StateM Surroundings) where
  readText path := fun s => (s.directory.readText path, s)
  writeText path text := fun s =>
    match s.directory.writeText path text with
    | .ok directory => (.ok (), { s with directory })
    | .error e => (.error e, s)
  print text := fun s => ((), { s with stdout := s.stdout ++ text })

/-- What a run leaves behind. -/
structure Effect extends Surroundings where
  outcome : Except RunError Unit := .ok ()

/-- The outcome of a run, with what it has left behind by then. -/
def Effect.of (result : Except RunError Unit × Surroundings) : Effect :=
  { result.2 with outcome := result.1 }

/-- Runs in a directory. -/
def Config.run (config : Config) (directory : Directory) : Effect :=
  .of ((config.runOn Directory.host).run { directory })

end CanvasExport.CommandLine
