import CanvasExport.Binary.Text
import CanvasExport.Json.Token
import CanvasExport.Text.Quoted
/-!
# Errors of reading JSON

Reading stops at the first problem.  The text may be malformed, it may end too early, or it may be
well formed up to a place where its contents do not fit; only such a `Mismatch` has a message.
-/

namespace CanvasExport.Json

/-- A value as it is described in a message. -/
inductive Found
  | null
  | bool (value : Bool)
  | integer (value : Int)
  | real (value : Double)
  | string (value : String)
  | sequence
  | map
  deriving DecidableEq

/-- The contents of a text do not fit. -/
inductive Mismatch
  /-- A value of another type. -/
  | wrongType (found : Found) (expected : String)
  /-- An integer that is out of range. -/
  | wrongValue (found : Int) (expected : String)
  /-- A sequence with too few items for a record. -/
  | tooShort (length : Nat) (record : String) (fields : Nat)
  | unknownVariant (name : String) (variants : List String)
  | duplicateField (name : String)
  | missingField (name : String)
  /-- A value that is none of the alternatives of a type. -/
  | noAlternative (type : String)
  deriving DecidableEq

/-- Why a text cannot be read. -/
inductive ReadError
  /-- The text is not JSON, or is nested too deep. -/
  | malformed
  /-- The text ends too early. -/
  | ended
  | mismatch (cause : Mismatch)
  deriving DecidableEq

/-! ## Faults in values -/

/-- The error that a fault is for whoever reads the faulty value. -/
def Fault.readError : Fault → ReadError
  | .malformed => .malformed
  | .ended | .endedInWord | .endedInNumber => .ended

/-- The error that a fault is for whoever skips the faulty value; a number that is cut short is then
not told from one that is malformed. -/
def Fault.skipError : Fault → ReadError
  | .malformed | .endedInNumber => .malformed
  | .ended | .endedInWord => .ended

/-! ## Messages -/

/-- A text between backquotes. -/
def backquoted (text : String) : String := "`" ++ text ++ "`"

/-- How a value is described. -/
def Found.message : Found → String
  | .null => "null"
  | .bool b => "boolean " ++ backquoted (if b then "true" else "false")
  | .integer n => "integer " ++ backquoted (toString n)
  | .real x => "floating point " ++ backquoted (String.ofList ((x.numeral? .double).getD x.toChars))
  | .string s => "string " ++ Text.quoted s
  | .sequence => "sequence"
  | .map => "map"

/-- What is said of contents that do not fit. -/
def Mismatch.message : Mismatch → String
  | .wrongType found expected => "invalid type: " ++ found.message ++ ", expected " ++ expected
  | .wrongValue found expected =>
      "invalid value: " ++ (Found.integer found).message ++ ", expected " ++ expected
  | .tooShort length record fields =>
      "invalid length " ++ toString length ++ ", expected struct " ++ record ++ " with " ++
        toString fields ++ (if fields = 1 then " element" else " elements")
  | .unknownVariant name variants =>
      "unknown variant " ++ backquoted name ++ ", expected one of " ++
        ", ".intercalate (variants.map backquoted)
  | .duplicateField name => "duplicate field " ++ backquoted name
  | .missingField name => "missing field " ++ backquoted name
  | .noAlternative type => "data did not match any variant of untagged enum " ++ type

end CanvasExport.Json
