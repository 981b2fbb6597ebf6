import CanvasExport.Descriptor
import CanvasExport.Text.Quoted
import CanvasExport.Token.Tokens
/-!
# Walks over a document

An export walks over nodes in order, requests tokens on its way and stops at the first error.  A token
depends on its request alone, so a `Walk` needs no state: it is the list of its requests, up to an
error, and its outcome.
-/

namespace CanvasExport

/-! ## Errors -/

/-- Why a document cannot be exported. -/
inductive ExportError
  /-- The template of a grid is missing, or gives no cell size. -/
  | malformedGridTemplate (nodeId : String) (axis : Axis) (value : Option String)
  /-- A component has no descriptor. -/
  | schemaMissing (nodeId : String) (tag : Option String)
  deriving DecidableEq

namespace ExportError

/-- The node at which the export stops. -/
def nodeId : ExportError → String
  | .malformedGridTemplate nodeId _ _ => nodeId
  | .schemaMissing nodeId _ => nodeId

/-- What is said of the error. -/
def message : ExportError → String
  | .malformedGridTemplate nodeId axis value =>
      "Malformed grid template on `" ++ nodeId ++ "`: " ++ axis.property ++ " = " ++
        Text.quotedOption value
  | .schemaMissing nodeId tag =>
      "No descriptor registered for component `" ++ nodeId ++ "` (tag: " ++
        Text.quotedOption tag ++ ")"

end ExportError

/-! ## Walks -/

/-- The requests of a walk, up to its error, and its outcome. -/
structure Walk (α : Type) where
  requests : List TokenRequest
  outcome : Except ExportError α

namespace Walk

variable {α β : Type}

/-- A walk that requests nothing. -/
protected def pure (a : α) : Walk α := ⟨[], .ok a⟩

/-- One walk after another; the second one is not begun where the first one fails. -/
protected def bind (w : Walk α) (next : α → Walk β) : Walk β :=
  match w.outcome with
  | .ok a => ⟨w.requests ++ (next a).requests, (next a).outcome⟩
  | .error e => ⟨w.requests, .error e⟩

instance : Monad Walk where
  pure := Walk.pure
  bind := Walk.bind

/-- A walk that succeeds is gone on with, and the requests follow each other. -/
theorem bind_of_ok {w : Walk α} {a : α} (h : w.outcome = .ok a) (next : α → Walk β) :
    w >>= next = ⟨w.requests ++ (next a).requests, (next a).outcome⟩ := by
  show Walk.bind w next = _
  simp [Walk.bind, h]

/-- A walk that fails is not gone on with. -/
theorem bind_of_error {w : Walk α} {e : ExportError} (h : w.outcome = .error e)
    (next : α → Walk β) : w >>= next = ⟨w.requests, .error e⟩ := by
  show Walk.bind w next = _
  simp [Walk.bind, h]

/-- Nothing is added by a walk that requests nothing behind another one. -/
theorem map_id_eq (w : Walk α) : id <$> w = w := by
  show Walk.bind w Walk.pure = w
  obtain ⟨requests, outcome⟩ := w
  cases outcome <;> simp [Walk.bind, Walk.pure]

/-- Nothing is added by a walk that requests nothing in front of another one. -/
theorem pure_bind_eq (a : α) (next : α → Walk β) : pure a >>= next = next a := by
  show Walk.bind (Walk.pure a) next = next a
  simp [Walk.bind, Walk.pure]

/-- Three walks in a row are one walk, however they are grouped. -/
theorem bind_assoc_eq {γ : Type} (w : Walk α) (f : α → Walk β) (g : β → Walk γ) :
    w >>= f >>= g = w >>= fun a => f a >>= g := by
  show Walk.bind (Walk.bind w f) g = Walk.bind w fun a => Walk.bind (f a) g
  obtain ⟨requests, outcome⟩ := w
  cases outcome with
  | error e => rfl
  | ok a =>
      simp only [Walk.bind]
      cases (f a).outcome <;> simp

instance : LawfulMonad Walk := .mk' Walk map_id_eq pure_bind_eq bind_assoc_eq

/-- The walk that fails. -/
def fail (e : ExportError) : Walk α := ⟨[], .error e⟩

/-- The walk that requests a token. -/
def request (r : TokenRequest) : Walk String := ⟨[r], .ok r.token⟩

/-- Walks over the members of a list in order. -/
def forEach (visit : α → Walk β) : List α → Walk (List β)
  | [] => pure []
  | a :: as => do
      let b ← visit a
      let bs ← forEach visit as
      return b :: bs

/-- The tokens after a walk, whether or not it fails. -/
def tokensAfter (w : Walk α) (tokens : Tokens) : Tokens := tokens.registerAll w.requests

/-- The tokens of a walk that is gone on with are handed on. -/
theorem tokensAfter_bind_of_ok {w : Walk α} {a : α} (h : w.outcome = .ok a) (next : α → Walk β)
    (tokens : Tokens) :
    (w >>= next).tokensAfter tokens = (next a).tokensAfter (w.tokensAfter tokens) := by
  rw [bind_of_ok h]
  exact Tokens.registerAll_append tokens w.requests (next a).requests

end Walk

end CanvasExport
