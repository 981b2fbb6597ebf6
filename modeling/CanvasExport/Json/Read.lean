import CanvasExport.Json.Error
import CanvasExport.Json.Tree
import CanvasExport.Dict
/-!
# Reading values from JSON trees

A reader takes how many containers may still be opened, and a tree, and gives a value or the first
error in reading order.  Here are the readers for texts, numbers, variants, sequences, maps and
records, from which the readers of the library's types are put together; `decode` reads a whole text.
-/

namespace CanvasExport.Json

/-- The outcome of reading. -/
abbrev Result (α : Type) := Except ReadError α

/-- So many containers may be open at once. -/
def depthLimit : Nat := 127

/-! ## Strings and numbers -/

/-- The characters of a string's pieces, up to a half of a pair that stands alone.  At the end the
fault of the string is the error, if it has one; a first half at the end is malformed on its own. -/
def charsOf (fault : Option Fault) : List Piece → Result (List Char)
  | [] =>
      match fault with
      | none => .ok []
      | some fault => .error fault.readError
  | .char c :: pieces => (charsOf fault pieces).map (c :: ·)
  | .lead high :: .trail low :: pieces =>
      (charsOf fault pieces).map (Char.ofNat (0x10000 + high.val * 1024 + low.val) :: ·)
  | [.lead _] =>
      match fault with
      | none => .error .malformed
      | some fault => .error fault.readError
  | .lead _ :: _ :: _ => .error .malformed
  | .trail _ :: _ => .error .malformed

/-- The text of a string. -/
def Quoted.text (q : Quoted) : Result String := (charsOf q.fault q.pieces).map String.ofList

/-- The value of a number: an integer of 64 bits, signed or not, or else the nearest double. -/
inductive Numeric
  | integer (value : Int)
  | real (value : Double)
  deriving DecidableEq

namespace Numeric

/-- Whether an integer fits in 64 bits, signed or not. -/
def fits (n : Int) : Bool := -0x8000000000000000 ≤ n && n < 0x10000000000000000

/-- The value of a number as it is written.  Zero with a minus sign is no integer, and what is
beyond all doubles is malformed.

A fraction is assumed to be rounded once, to the nearest double, so that a double is read back from the
text that is written for it.  A reader that computes with the digits in floating point rounds some long
literals twice: it takes `99.99999999999999` for one hundred. -/
def ofLiteral (literal : List Char) : Result Numeric :=
  let real : Result Numeric :=
    match Binary.ofChars? .double literal with
    | some x => if x.isFinite then .ok (.real x) else .error .malformed
    | none => .error .malformed
  match Decimal.int? literal with
  | some n => if fits n && literal != ['-', '0'] then .ok (.integer n) else real
  | none => real

/-- The number in a format, rounded once from what is written, or from the nearest double. -/
def toBinary (f : Format) : Numeric → Binary f
  | .integer n => Binary.ofInt f n
  | .real x => x.convert f

/-- How the number is described in a message. -/
def found : Numeric → Found
  | .integer n => .integer n
  | .real x => .real x

end Numeric

/-! ## Refusing -/

/-- How a token at the start of a value is described; the description of a string or number needs
all of it. -/
def Tree.found : Tree → Result Found
  | .null => .ok .null
  | .bool b => .ok (.bool b)
  | .number literal => (Numeric.ofLiteral literal).map Numeric.found
  | .string content => content.text.map .string
  | .array _ _ => .ok .sequence
  | .object _ _ => .ok .map
  | .broken fault => .error fault.readError

/-- A value of another type than the expected one. -/
def Tree.refuse {α : Type} (expected : String) (t : Tree) : Result α := do
  throw (.mismatch (.wrongType (← t.found) expected))

/-- The end of a container whose contents have all been read. -/
def Stop.finish : Stop → Result Unit
  | .closed => .ok ()
  | .cut _ fault => .error fault.readError

/-- Passes over a value of which only the form counts. -/
def Tree.skip (t : Tree) : Result Unit :=
  match t.fault? with
  | none => .ok ()
  | some fault => .error fault.skipError

/-! ## Readers -/

/-- Reads a text. -/
def readText : Tree → Result String
  | .string content => content.text
  | t => t.refuse "a string"

/-- Reads a value that may be `null`. -/
def readOption {α : Type} (read : Tree → Result α) : Tree → Result (Option α)
  | .null => .ok none
  | t => (read t).map some

/-- Reads a sequence of values. -/
def readList {α : Type} (depth : Nat) (read : Tree → Result α) : Tree → Result (List α)
  | .array items stop =>
      if depth = 0 then .error .malformed
      else do
        let values ← items.mapM read
        stop.finish
        return values
  | t => t.refuse "a sequence"

/-- Reads the members of a map in order. -/
def readMembers {α : Type} (expected : String) (depth : Nat) (read : Tree → Result α) :
    Tree → Result (List (String × α))
  | .object members stop =>
      if depth = 0 then .error .malformed
      else do
        let values ← members.mapM fun (key, value) => do return (← key.text, ← read value)
        stop.finish
        return values
  | t => t.refuse expected

/-- Reads a map; of members with the same key the last one counts. -/
def readDict {α : Type} (depth : Nat) (read : Tree → Result α) (t : Tree) : Result (Dict α) :=
  (readMembers "a map" depth read t).map Dict.ofList

/-- Looks through a value that may be of any type: its strings and numbers must be readable, and its
containers not too deep. -/
def Tree.check : Nat → Tree → Result Unit
  | _, .null | _, .bool _ => .ok ()
  | _, .number literal => (Numeric.ofLiteral literal).map fun _ => ()
  | _, .string content => content.text.map fun _ => ()
  | _, .broken fault => .error fault.readError
  | 0, .array _ _ | 0, .object _ _ => .error .malformed
  | depth + 1, .array items stop => do
      items.forM (Tree.check depth)
      stop.finish
  | depth + 1, .object members stop => do
      members.forM fun (key, value) => do
        let _ ← key.text
        Tree.check depth value
      stop.finish

/-! ## Variants -/

/-- The variant of a name. -/
def variantOf {α : Type} (variants : List (String × α)) (name : String) : Result α :=
  match variants.lookup name with
  | some value => .ok value
  | none => .error (.mismatch (.unknownVariant name (variants.map Prod.fst)))

/-- Reads the name of a variant: a text, or an object whose only key it is, with the value `null`. -/
def readVariant {α : Type} (variants : List (String × α)) (depth : Nat) : Tree → Result α
  | .string content => do variantOf variants (← content.text)
  | .object members stop =>
      if depth = 0 then .error .malformed
      else match members with
        | [] =>
            match stop with
            | .closed => .error .malformed
            | .cut _ fault => .error fault.readError
        | (key, payload) :: rest => do
            let value ← variantOf variants (← key.text)
            match payload with
            | .null =>
                match rest, stop with
                | [], .closed => return value
                | [], .cut false fault => throw fault.readError
                | _, _ => throw .malformed
            | payload => payload.refuse "unit"
  | .broken .ended => .error .ended
  | _ => .error .malformed

/-! ## Records -/

/-- Whether a field has to be there. -/
inductive Presence
  /-- In objects and in arrays. -/
  | required
  /-- In arrays only; where it is missing in an object, its value stays as it is. -/
  | optional
  /-- Nowhere; where it is missing, its value stays as it is. -/
  | defaulted
  deriving DecidableEq

/-- A field of a record: how its value is read and put into the record. -/
structure Field (α : Type) where
  name : String
  presence : Presence
  read : Tree → Result (α → α)

/-- The field that a reader reads and `put` puts into the record. -/
def Field.of {α β : Type} (name : String) (presence : Presence) (read : Tree → Result β)
    (put : β → α → α) : Field α :=
  ⟨name, presence, fun t => (read t).map put⟩

/-- A record: its name, its fields in the order of their declaration, and the record before any field
is read. -/
structure Shape (α : Type) where
  name : String
  fields : List (Field α)
  start : α

namespace Shape

variable {α : Type}

/-- Reads the members of an object; `seen` holds the names of the fields read so far. -/
def readObject (shape : Shape α) (seen : List String) (value : α) (stop : Stop) :
    List (Quoted × Tree) → Result α
  | [] => do
      stop.finish
      match shape.fields.find? fun field => field.presence = .required && !seen.contains field.name with
      | some field => throw (.mismatch (.missingField field.name))
      | none => return value
  | (key, t) :: members => do
      let name ← key.text
      match shape.fields.find? (·.name == name) with
      | none =>
          t.skip
          readObject shape seen value stop members
      | some field =>
          if seen.contains name then throw (.mismatch (.duplicateField name))
          else
            let put ← field.read t
            readObject shape (name :: seen) (put value) stop members

/-- Reads the items of an array into the fields, from the field with number `position` on. -/
def readArray (shape : Shape α) (position : Nat) (value : α) (stop : Stop) :
    List (Field α) → List Tree → Result α
  | [], [] =>
      match stop with
      | .closed => .ok value
      | .cut false fault => .error fault.readError
      | _ => .error .malformed
  | [], _ :: _ => .error .malformed
  | field :: fields, [] => do
      stop.finish
      if field.presence = .defaulted then readArray shape (position + 1) value stop fields []
      else throw (.mismatch (.tooShort position shape.name shape.fields.length))
  | field :: fields, t :: items => do
      let put ← field.read t
      readArray shape (position + 1) (put value) stop fields items

/-- Reads a record from an object with its fields, or from an array of their values in order. -/
def read (shape : Shape α) (depth : Nat) : Tree → Result α
  | .object members stop =>
      if depth = 0 then .error .malformed else shape.readObject [] shape.start stop members
  | .array items stop =>
      if depth = 0 then .error .malformed
      else shape.readArray 0 shape.start stop shape.fields items
  | t => t.refuse ("struct " ++ shape.name)

end Shape

/-! ## Texts -/

/-- Reads a text that is one value, with nothing but blanks behind it. -/
def decode {α : Type} (read : Nat → Tree → Result α) (text : String) : Result α := do
  let (tree, rest) := treeOf text.toList
  let value ← read depthLimit tree
  if rest.isEmpty then return value else throw .malformed

end CanvasExport.Json
