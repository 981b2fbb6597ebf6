import CanvasExport.Binary.Text
import CanvasExport.Dict
/-!
# JSON values and their texts

A `Json` value keeps the order of the members of its objects.  It is written in a `Layout`: compact,
on one line and without blanks, or indented, with each item and member on a line of its own.  The two
differ only in blanks between tokens.
-/

namespace CanvasExport

/-- A JSON value; a number is kept as it is written. -/
inductive Json
  | null
  | bool (value : Bool)
  | number (literal : List Char)
  | string (value : String)
  | array (items : List Json)
  | object (members : List (String × Json))

namespace Json

/-! ## Values of other types -/

/-- A number; what JSON cannot say is `null`. -/
def ofBinary {f : Format} (bounds : Binary.Positional) (x : Binary f) : Json :=
  match x.numeral? bounds with
  | some literal => .number literal
  | none => .null

/-- An integer. -/
def ofNat (n : Nat) : Json := .number (Nat.toDigits 10 n)

/-- A text that may be absent. -/
def ofOption : Option String → Json
  | none => .null
  | some s => .string s

/-- A list of texts. -/
def ofTexts (texts : List String) : Json := .array (texts.map .string)

/-- A dictionary, with its keys in order. -/
def ofDict {α : Type} (value : α → Json) (d : Dict α) : Json :=
  .object (d.entries.map fun (key, v) => (key, value v))

/-- A dictionary of texts. -/
def ofTextDict (d : Dict String) : Json := ofDict .string d

/-! ## Strings -/

/-- A character as it stands in a string. -/
def escapeChar (c : Char) : List Char :=
  if c = '"' then ['\\', '"']
  else if c = '\\' then ['\\', '\\']
  else if c = '\x08' then ['\\', 'b']
  else if c = '\x0c' then ['\\', 'f']
  else if c = '\n' then ['\\', 'n']
  else if c = '\r' then ['\\', 'r']
  else if c = '\t' then ['\\', 't']
  else if c.toNat < 0x20 then
    ['\\', 'u', '0', '0', Nat.digitChar (c.toNat / 16), Nat.digitChar (c.toNat % 16)]
  else [c]

/-- A string between its quotes. -/
def stringChars (s : String) : List Char := '"' :: (s.toList.flatMap escapeChar ++ ['"'])

/-! ## Layouts -/

/-- Where blanks stand between the tokens of a value. -/
inductive Layout
  /-- No blanks. -/
  | compact
  /-- Four spaces for each level of nesting, and one behind each colon. -/
  | indented
  deriving DecidableEq, Repr

namespace Layout

/-- The blanks in front of an item, a member or a closing bracket at a level of nesting. -/
def lineBreak (layout : Layout) (level : Nat) : List Char :=
  match layout with
  | .compact => []
  | .indented => '\n' :: List.replicate (4 * level) ' '

/-- The blanks behind a colon. -/
def space : Layout → List Char
  | .compact => []
  | .indented => [' ']

end Layout

mutual

/-- The characters of a value at a level of nesting. -/
def chars (layout : Layout) (level : Nat) : Json → List Char
  | .null => "null".toList
  | .bool b => (if b then "true" else "false").toList
  | .number literal => literal
  | .string s => stringChars s
  | .array [] => ['[', ']']
  | .array (item :: items) =>
      '[' :: (layout.lineBreak (level + 1) ++ chars layout (level + 1) item ++
        itemsChars layout level items)
  | .object [] => ['\x7b', '\x7d']
  | .object ((key, value) :: members) =>
      '\x7b' :: (layout.lineBreak (level + 1) ++ stringChars key ++ ':' :: layout.space ++
        chars layout (level + 1) value ++ membersChars layout level members)

/-- The characters behind the first item of an array. -/
def itemsChars (layout : Layout) (level : Nat) : List Json → List Char
  | [] => layout.lineBreak level ++ [']']
  | item :: items =>
      ',' :: (layout.lineBreak (level + 1) ++ chars layout (level + 1) item ++
        itemsChars layout level items)

/-- The characters behind the first member of an object. -/
def membersChars (layout : Layout) (level : Nat) : List (String × Json) → List Char
  | [] => layout.lineBreak level ++ ['\x7d']
  | (key, value) :: members =>
      ',' :: (layout.lineBreak (level + 1) ++ stringChars key ++ ':' :: layout.space ++
        chars layout (level + 1) value ++ membersChars layout level members)

end

/-- The text of a value. -/
def render (layout : Layout) (value : Json) : String := String.ofList (value.chars layout 0)

end Json

end CanvasExport
