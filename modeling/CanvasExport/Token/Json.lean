import CanvasExport.Json.Read
import CanvasExport.Json.Value
import CanvasExport.Token.Tokens
/-!
# Custom tokens in JSON

The custom tokens are written as the extension of a theme: `theme`, in it `extend`, and in it the
four dictionaries.
-/

namespace CanvasExport.Tokens

open Json

/-- The fields of the extension of a theme, inside of which so many containers may be opened. -/
def extensionShape (depth : Nat) : Shape Tokens where
  name := "ThemeExtension"
  start := {}
  fields :=
    [.of "spacing" .required (readDict depth readText) fun spacing t => { t with spacing },
     .of "colors" .required (readDict depth readText) fun colors t => { t with colors },
     .of "gridTemplateColumns" .required (readDict depth readText) fun columns t => { t with columns },
     .of "gridTemplateRows" .required (readDict depth readText) fun rows t => { t with rows }]

/-- The fields of a theme, inside of which so many containers may be opened. -/
def themeShape (depth : Nat) : Shape Tokens where
  name := "ThemeConfig"
  start := {}
  fields := [.of "extend" .required ((extensionShape (depth - 1)).read depth) fun t _ => t]

/-- The fields of a configuration, inside of which so many containers may be opened. -/
def shape (depth : Nat) : Shape Tokens where
  name := "DesignTokenConfig"
  start := {}
  fields := [.of "theme" .required ((themeShape (depth - 1)).read depth) fun t _ => t]

/-- Reads the custom tokens. -/
def read (depth : Nat) (t : Tree) : Result Tokens := (shape (depth - 1)).read depth t

/-- The custom tokens that a text describes. -/
def parse (text : String) : Result Tokens := decode read text

/-- The custom tokens in JSON. -/
def toJson (t : Tokens) : Json :=
  .object [("theme", .object [("extend", .object
    [("spacing", .ofTextDict t.spacing), ("colors", .ofTextDict t.colors),
     ("gridTemplateColumns", .ofTextDict t.columns), ("gridTemplateRows", .ofTextDict t.rows)])])]

/-- The text of the custom tokens. -/
def render (layout : Json.Layout) (t : Tokens) : String := t.toJson.render layout

end CanvasExport.Tokens
