import CanvasExport.Dict
import CanvasExport.Token.GridTemplate
import CanvasExport.Token.Palette
import CanvasExport.Token.Spacing
/-!
# Custom tokens

While a document is exported tokens are requested one after the other.  A `TokenRequest` determines
its token and its definition on its own; `Tokens` collects the definitions of the tokens that are not
built in, where the first definition of a name stays.
-/

namespace CanvasExport

/-! ## Requests -/

/-- A value for which a token is needed. -/
inductive TokenRequest
  /-- A length in pixels. -/
  | spacing (px : Int)
  /-- A color. -/
  | color (text : String)
  /-- The size of the cells along an axis. -/
  | cell (axis : Axis) (size : Double)
  deriving DecidableEq

/-- The token that stands for the value. -/
def TokenRequest.token : TokenRequest → String
  | .spacing px => Spacing.token px
  | .color text => Palette.token text
  | .cell _ size => GridTemplate.token size

/-! ## Collected definitions -/

/-- The definitions of the custom tokens of an export. -/
structure Tokens where
  /-- Lengths in rem by spacing token. -/
  spacing : Dict String := .empty
  /-- Colors by key. -/
  colors : Dict String := .empty
  /-- Column templates by token. -/
  columns : Dict String := .empty
  /-- Row templates by token. -/
  rows : Dict String := .empty
  deriving DecidableEq

/-- The dictionary with a definition, unless its name is defined. -/
def Dict.define (d : Dict String) (definition : Option (String × String)) : Dict String :=
  match definition with
  | none => d
  | some (name, value) => d.insertNew name value

namespace Tokens

instance : Inhabited Tokens := ⟨{}⟩

/-- No token is defined. -/
def isEmpty (t : Tokens) : Bool :=
  t.spacing.isEmpty && t.colors.isEmpty && t.columns.isEmpty && t.rows.isEmpty

/-- The tokens with the definition of one more request. -/
def register (t : Tokens) : TokenRequest → Tokens
  | .spacing px => { t with spacing := t.spacing.define (Spacing.definition? px) }
  | .color text => { t with colors := t.colors.define (Palette.definition? text) }
  | .cell .columns size =>
      { t with
        columns := t.columns.define (some (GridTemplate.token size, GridTemplate.declaration size)) }
  | .cell .rows size =>
      { t with
        rows := t.rows.define (some (GridTemplate.token size, GridTemplate.declaration size)) }

/-- The tokens with the definitions of all requests, in order. -/
def registerAll (t : Tokens) (requests : List TokenRequest) : Tokens := requests.foldl register t

/-- Requests in a row are registered one list after the other. -/
theorem registerAll_append (t : Tokens) (first second : List TokenRequest) :
    t.registerAll (first ++ second) = (t.registerAll first).registerAll second := List.foldl_append

end Tokens

end CanvasExport
