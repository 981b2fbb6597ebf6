import CanvasExport.Proofs.Dict
import CanvasExport.Token.Tokens
/-!
# Tokens as first definitions

The custom tokens are four dictionaries, one for each family of tokens.  After any requests a name
stands for what it stood for before, and else for its first definition among the requests
(`get?_registerAll`).  Hence definitions only come in, what requests bring in does not depend on what
is there (`get?_registerAll_eq_or_get?_fresh`), and requests that have been registered change nothing
(`registerAll_registerAll`).
-/

namespace CanvasExport

/-! ## Families -/

/-- The families of custom tokens. -/
inductive TokenFamily
  /-- Lengths. -/
  | spacing
  | colors
  /-- Templates of columns. -/
  | columns
  /-- Templates of rows. -/
  | rows
  deriving DecidableEq

/-- The family of the templates along an axis. -/
def Axis.family : Axis → TokenFamily
  | .columns => .columns
  | .rows => .rows

/-- The definitions of a family. -/
def Tokens.dict (t : Tokens) : TokenFamily → Dict String
  | .spacing => t.spacing
  | .colors => t.colors
  | .columns => t.columns
  | .rows => t.rows

/-- No family has a definition at first. -/
@[simp] theorem Tokens.dict_empty (family : TokenFamily) : ({} : Tokens).dict family = .empty := by
  cases family <;> rfl

/-- Tokens are determined by the definitions of their families. -/
theorem Tokens.ext_dict {s t : Tokens} (h : ∀ family, s.dict family = t.dict family) : s = t := by
  have hspacing : s.spacing = t.spacing := h .spacing
  have hcolors : s.colors = t.colors := h .colors
  have hcolumns : s.columns = t.columns := h .columns
  have hrows : s.rows = t.rows := h .rows
  cases s
  cases t
  simp_all

/-! ## Definitions of requests -/

namespace TokenRequest

/-- The family in which a request is defined. -/
def family : TokenRequest → TokenFamily
  | .spacing _ => .spacing
  | .color _ => .colors
  | .cell axis _ => axis.family

/-- The lengths are the spacing requests. -/
theorem family_eq_spacing_iff {q : TokenRequest} : q.family = .spacing ↔ ∃ px, q = .spacing px := by
  cases q with
  | spacing px => simp [family]
  | color text => simp [family]
  | cell axis size => cases axis <;> simp [family, Axis.family]

/-- The colors are the color requests. -/
theorem family_eq_colors_iff {q : TokenRequest} : q.family = .colors ↔ ∃ text, q = .color text := by
  cases q with
  | spacing px => simp [family]
  | color text => simp [family]
  | cell axis size => cases axis <;> simp [family, Axis.family]

/-- The cell sizes along an axis are the requests for its templates. -/
theorem family_eq_axis_family_iff {q : TokenRequest} {axis : Axis} :
    q.family = axis.family ↔ ∃ size, q = .cell axis size := by
  cases q with
  | spacing px => cases axis <;> simp [family, Axis.family]
  | color text => cases axis <;> simp [family, Axis.family]
  | cell other size => cases other <;> cases axis <;> simp [family, Axis.family]

/-- The name and the value that a request brings in, if its token is not built in. -/
def definition? : TokenRequest → Option (String × String)
  | .spacing px => Spacing.definition? px
  | .color text => Palette.definition? text
  | .cell _ size => some (GridTemplate.token size, GridTemplate.declaration size)

/-- What a request brings into a family. -/
def definitionIn? (family : TokenFamily) (q : TokenRequest) : Option (String × String) :=
  if q.family = family then q.definition? else none

end TokenRequest

/-- The definitions that requests bring into a family, in order. -/
def TokenFamily.definitions (family : TokenFamily) (requests : List TokenRequest) :
    List (String × String) :=
  requests.filterMap (TokenRequest.definitionIn? family)

/-- A definition comes from a request of its family. -/
theorem TokenFamily.mem_definitions {family : TokenFamily} {requests : List TokenRequest}
    {name value : String} :
    (name, value) ∈ family.definitions requests ↔
      ∃ q ∈ requests, q.family = family ∧ q.definition? = some (name, value) := by
  simp [definitions, TokenRequest.definitionIn?]

/-- The members of a list bring in what each member brings in, in order. -/
theorem TokenFamily.definitions_flatMap {α : Type} (family : TokenFamily)
    (requestsOf : α → List TokenRequest) (as : List α) :
    family.definitions (as.flatMap requestsOf) =
      as.flatMap fun a => family.definitions (requestsOf a) := List.filterMap_flatMap

/-! ## Registration -/

/-- A definition counts where its name has none. -/
theorem Dict.get?_define (d : Dict String) (definition : Option (String × String)) (name : String) :
    (d.define definition).get? name = (d.get? name).or (definition.toList.lookup name) := by
  cases definition with
  | none => simp [define]
  | some entry =>
      obtain ⟨k, v⟩ := entry
      rw [define, get?_insertNew, Option.toList_some, lookup_cons_eq_ite]
      by_cases h : name = k
      · rw [if_pos h, if_pos h, h]
        cases d.get? k <;> rfl
      · rw [if_neg h, if_neg h, List.lookup_nil, Option.or_none]

namespace Tokens

/-- A request is defined in its family, and leaves the others alone. -/
theorem dict_register (t : Tokens) (q : TokenRequest) (family : TokenFamily) :
    (t.register q).dict family = (t.dict family).define (q.definitionIn? family) := by
  cases q with
  | spacing px =>
      cases family <;>
        simp [register, dict, TokenRequest.definitionIn?, TokenRequest.family,
          TokenRequest.definition?, Dict.define]
  | color text =>
      cases family <;>
        simp [register, dict, TokenRequest.definitionIn?, TokenRequest.family,
          TokenRequest.definition?, Dict.define]
  | cell axis size =>
      cases axis <;> cases family <;>
        simp [register, dict, TokenRequest.definitionIn?, TokenRequest.family, Axis.family,
          TokenRequest.definition?, Dict.define]

/-- What a request defines is there behind it, unless the name stood for something. -/
theorem get?_register_of_definition? {q : TokenRequest} {name value : String}
    (h : q.definition? = some (name, value)) (t : Tokens) :
    ((t.register q).dict q.family).get? name =
      ((t.dict q.family).get? name).or (some value) := by
  rw [dict_register, Dict.get?_define, TokenRequest.definitionIn?, if_pos rfl, h, Option.toList_some,
    List.lookup_cons_self]

/-- A name stands for what it stood for, and else for its first definition among the requests. -/
theorem get?_registerAll (t : Tokens) (requests : List TokenRequest) (family : TokenFamily)
    (name : String) :
    ((t.registerAll requests).dict family).get? name =
      ((t.dict family).get? name).or ((family.definitions requests).lookup name) := by
  induction requests generalizing t with
  | nil => simp [registerAll, TokenFamily.definitions]
  | cons q qs ih =>
      have hstep : t.registerAll (q :: qs) = (t.register q).registerAll qs := rfl
      have hdefs : family.definitions (q :: qs) =
          (q.definitionIn? family).toList ++ family.definitions qs := by
        rw [TokenFamily.definitions, List.filterMap_cons]
        cases q.definitionIn? family <;> rfl
      rw [hstep, ih, dict_register, Dict.get?_define, hdefs, List.lookup_append, Option.or_assoc]

/-- Registered on its own a name stands for its first definition. -/
theorem get?_registerAll_empty (requests : List TokenRequest) (family : TokenFamily)
    (name : String) :
    ((Tokens.registerAll {} requests).dict family).get? name =
      (family.definitions requests).lookup name := by
  rw [get?_registerAll, dict_empty, Dict.get?_empty, Option.none_or]

/-- What requests bring in is the same whatever is there, and what is there stays. -/
theorem get?_registerAll_eq_or_get?_fresh (t : Tokens) (requests : List TokenRequest)
    (family : TokenFamily) (name : String) :
    ((t.registerAll requests).dict family).get? name =
      ((t.dict family).get? name).or (((Tokens.registerAll {} requests).dict family).get? name) := by
  rw [get?_registerAll, get?_registerAll_empty]

/-- Requests that have been registered change nothing. -/
theorem registerAll_registerAll (t : Tokens) (requests : List TokenRequest) :
    (t.registerAll requests).registerAll requests = t.registerAll requests := by
  apply ext_dict
  intro family
  apply Dict.ext_get?
  intro name
  rw [get?_registerAll, get?_registerAll, Option.or_assoc, Option.or_self]

end Tokens

end CanvasExport
