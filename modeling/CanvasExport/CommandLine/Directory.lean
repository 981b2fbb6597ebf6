import CanvasExport.Dict
import CanvasExport.Text.Blank
/-!
# The files of a run

A run reads and writes files in its working directory and in the directories above it.  A `Directory`
maps the paths of these files, as they are seen from the working directory, to their bytes; there are
no other directories.  A path is walked step by step, so the first step that leads nowhere decides why
a file cannot be reached.  `Place.path_inj` says that files in different places have different paths.
-/

namespace CanvasExport.CommandLine

/-- Why a file cannot be read or written. -/
inductive FileError
  | notFound
  | isDirectory
  | notDirectory
  /-- A name or a whole path has too many bytes. -/
  | nameTooLong
  /-- The path contains the null character. -/
  | invalidPath
  /-- The bytes are no text. -/
  | invalidData
  deriving DecidableEq, Repr

/-- The text that the bytes of a file are. -/
def textOf (bytes : ByteArray) : Except FileError String :=
  match String.fromUTF8? bytes with
  | some text => .ok text
  | none => .error .invalidData

/-- The bytes of the files that can be reached from a directory, by their paths. -/
abbrev Directory := Dict ByteArray

namespace Directory

/-! ## Places -/

/-- A directory on the way of a path. -/
inductive Place
  /-- The directory so many levels above that of the run. -/
  | up (levels : Nat)
  /-- The directory above all others. -/
  | top
  deriving DecidableEq, Repr

namespace Place

/-- The directory of the run. -/
def here : Place := .up 0

/-- The directory above; the topmost one is above itself. -/
def parent : Place → Place
  | .up levels => .up (levels + 1)
  | .top => .top

/-- The steps up to a place, each with its slash. -/
def climb : Place → List Char
  | .up levels => (List.replicate levels ['.', '.', '/']).flatten
  | .top => ['/']

/-- The path of a file in a place. -/
def path (place : Place) (name : String) : String := String.ofList (place.climb ++ name.toList)

/-- There is a slash for each level. -/
theorem count_climb_up (levels : Nat) : (Place.up levels).climb.count '/' = levels := by
  simp [climb, List.count_flatten]

/-- Names without slashes have the same path only if they are the same, in the same place. -/
theorem path_inj {p q : Place} {a b : String} (ha : '/' ∉ a.toList) (hb : '/' ∉ b.toList)
    (h : p.path a = q.path b) : p = q ∧ a = b := by
  have e : p.climb ++ a.toList = q.climb ++ b.toList := String.ofList_injective h
  have hcount : p.climb.count '/' = q.climb.count '/' := by
    simpa [List.count_eq_zero.2 ha, List.count_eq_zero.2 hb] using congrArg (List.count '/') e
  have same : p = q := by
    cases p with
    | up m =>
        cases q with
        | up n => rw [count_climb_up, count_climb_up] at hcount; rw [hcount]
        | top =>
            obtain rfl : m = 1 := (count_climb_up m).symm.trans hcount
            simp [climb] at e
    | top =>
        cases q with
        | up n =>
            obtain rfl : n = 1 := (count_climb_up n).symm.trans hcount.symm
            simp [climb] at e
        | top => rfl
  subst same
  exact ⟨rfl, String.toList_injective (List.append_cancel_left e)⟩

end Place

/-! ## Paths -/

/-- What a path leads to. -/
inductive Target
  /-- A directory. -/
  | directory
  /-- A place for a file in a directory; `asDirectory` where a slash follows the name. -/
  | file (place : Place) (name : String) (asDirectory : Bool)
  deriving DecidableEq, Repr

/-- The greatest number of bytes in a name. -/
def nameLimit : Nat := 255

/-- The greatest number of bytes in a path. -/
def pathLimit : Nat := 4095

/-- What a name stands for: the bytes of a file. -/
def find (d : Directory) (place : Place) (name : String) : Except FileError ByteArray :=
  if nameLimit < name.utf8ByteSize then .error .nameTooLong
  else ((d.get? (place.path name)).map Except.ok).getD (.error .notFound)

/-- A step that stays where it is, or goes up. -/
def isDots (step : List Char) : Bool := step = ['.'] || step = ['.', '.']

/-- The directory that a step leads to; no name stands for one. -/
def enter (d : Directory) (place : Place) (step : List Char) : Except FileError Place :=
  if step = ['.'] then .ok place
  else if step = ['.', '.'] then .ok place.parent
  else match d.find place (String.ofList step) with
    | .ok _ => .error .notDirectory
    | .error e => .error e

/-- What a path leads to.  Empty steps stay where they are, and a slash in front leads to the top. -/
def target (d : Directory) (path : String) : Except FileError Target := do
  if path.toList.contains '\x00' then throw .invalidPath
  if pathLimit < path.utf8ByteSize then throw .nameTooLong
  let pieces := Text.parts '/' path.toList
  let steps := pieces.filter (!·.isEmpty)
  let start := if pieces.head? = some [] then Place.top else .here
  let place ← steps.dropLast.foldlM d.enter start
  match steps.getLast? with
  | none => return .directory
  | some step =>
      if isDots step then return .directory
      else return .file place (String.ofList step) (pieces.getLast? = some [])

/-! ## Files -/

/-- The bytes of the file that a path leads to. -/
def readBytes (d : Directory) (path : String) : Except FileError ByteArray := do
  match ← d.target path with
  | .directory => throw .isDirectory
  | .file place name asDirectory =>
      let bytes ← d.find place name
      if asDirectory then throw .notDirectory else return bytes

/-- The text of the file that a path leads to. -/
def readText (d : Directory) (path : String) : Except FileError String := do
  textOf (← d.readBytes path)

/-- The directory with a file written, created or replaced. -/
def writeBytes (d : Directory) (path : String) (bytes : ByteArray) :
    Except FileError Directory := do
  match ← d.target path with
  | .directory | .file _ _ true => throw .isDirectory
  | .file place name false =>
      if nameLimit < name.utf8ByteSize then throw .nameTooLong
      else return d.insert (place.path name) bytes

/-- The directory with a text file written, created or replaced. -/
def writeText (d : Directory) (path text : String) : Except FileError Directory :=
  d.writeBytes path text.toUTF8

/-- The files of the directory itself, by name. -/
def ownFiles (d : Directory) : List (String × ByteArray) :=
  d.entries.filter fun (path, _) => !path.toList.contains '/'

end Directory

end CanvasExport.CommandLine
