import CanvasExport.Export.Document
import CanvasExport.Proofs.Tokens
/-!
# The export with tokens at hand

A walk keeps its requests and defines no token.  Here the export is done the other way: a `Resolver`
has the tokens at hand, looks each name up before it defines it, and goes on with what is defined by
then.  Both are the same: a walk on tokens (`Walk.on`) requests a token by resolving it
(`Walk.on_request`) and hands the tokens on from step to step (`Walk.on_bind`), so `exportWith` is the
export on a copy of the tokens that is kept where the export succeeds
(`Document.exportWith_eq_exportResolving`).
-/

namespace CanvasExport

/-- A computation on the tokens defined so far.  What it has defined stays when it fails. -/
abbrev Resolver (α : Type) : Type := ExceptT ExportError (StateM Tokens) α

/-! ## Resolving one value -/

/-- The tokens with a name of a family set to a value. -/
def Tokens.put (t : Tokens) (family : TokenFamily) (name value : String) : Tokens :=
  match family with
  | .spacing => { t with spacing := t.spacing.insert name value }
  | .colors => { t with colors := t.colors.insert name value }
  | .columns => { t with columns := t.columns.insert name value }
  | .rows => { t with rows := t.rows.insert name value }

/-- A name is set in its family, and the others are left alone. -/
theorem Tokens.dict_put (t : Tokens) (family other : TokenFamily) (name value : String) :
    (t.put family name value).dict other =
      if family = other then (t.dict other).insert name value else t.dict other := by
  cases family <;> cases other <;> simp [put, dict]

/-- The tokens with a request defined, unless its token is built in or its name is there. -/
def Tokens.defineMissing (t : Tokens) (q : TokenRequest) : Tokens :=
  match q.definition? with
  | none => t
  | some (name, value) =>
      match (t.dict q.family).get? name with
      | some _ => t
      | none => t.put q.family name value

/-- Looking a name up before it is set comes to registering its request. -/
theorem Tokens.defineMissing_eq_register (t : Tokens) (q : TokenRequest) :
    t.defineMissing q = t.register q := by
  apply ext_dict
  intro family
  cases hq : q.definition? with
  | none =>
      rw [dict_register, TokenRequest.definitionIn?, hq, ite_self]
      simp only [defineMissing, hq, Dict.define]
  | some entry =>
      obtain ⟨name, value⟩ := entry
      have hregister : (t.register q).dict family =
          if q.family = family then (t.dict family).insertNew name value else t.dict family := by
        rw [dict_register, TokenRequest.definitionIn?, hq]
        split <;> rfl
      rw [hregister]
      cases hname : (t.dict q.family).get? name with
      | some old =>
          -- the name is there, so registering it changes nothing either
          simp only [defineMissing, hq, hname]
          split
          · rename_i h
            rw [← h, Dict.insertNew_eq_self hname]
          · rfl
      | none =>
          simp only [defineMissing, hq, hname, dict_put]
          split
          · rename_i h
            rw [← h, Dict.insertNew_eq_insert hname]
          · rfl

/-- Resolves a value to its token, and defines the token where it has to be defined. -/
def Resolver.resolve (q : TokenRequest) : Resolver String := do
  modify (·.defineMissing q)
  return q.token

/-- Resolving a value gives its token, and registers its request. -/
theorem Resolver.run_resolve (q : TokenRequest) (t : Tokens) :
    (resolve q).run.run t = (.ok q.token, t.register q) := by
  rw [← Tokens.defineMissing_eq_register]
  rfl

/-! ## Walks on tokens -/

namespace Walk

variable {α β : Type}

/-- The walk as a computation on tokens: its requests are registered, also where it fails. -/
def on (w : Walk α) : Resolver α := ExceptT.mk fun t => (w.outcome, w.tokensAfter t)

theorem run_on (w : Walk α) (t : Tokens) : w.on.run.run t = (w.outcome, w.tokensAfter t) := rfl

/-- A result defines nothing. -/
@[simp] theorem on_pure (a : α) : (pure a : Walk α).on = pure a := rfl

/-- A failure defines nothing. -/
@[simp] theorem on_fail (e : ExportError) : (fail e : Walk α).on = throw e := rfl

/-- A token is requested by resolving it. -/
@[simp] theorem on_request (q : TokenRequest) : (request q).on = Resolver.resolve q := by
  funext t
  exact (Resolver.run_resolve q t).symm

/-- The tokens of one walk are those on which the next one goes on. -/
@[simp] theorem on_bind (w : Walk α) (next : α → Walk β) :
    (w >>= next).on = w.on >>= fun a => (next a).on := by
  funext t
  cases h : w.outcome with
  | error e =>
      rw [bind_of_error h]
      show (Except.error e, w.tokensAfter t) = (w.on >>= fun a => (next a).on) t
      simp only [on, ExceptT.mk, bind, ExceptT.bind, StateT.bind, h]
      rfl
  | ok a =>
      show ((w >>= next).outcome, (w >>= next).tokensAfter t) = (w.on >>= fun a => (next a).on) t
      rw [tokensAfter_bind_of_ok h, bind_of_ok h]
      simp only [on, ExceptT.mk, bind, ExceptT.bind, StateT.bind, h]
      rfl

/-- A walk over a list goes from member to member. -/
@[simp] theorem on_forEach (visit : α → Walk β) (as : List α) :
    (forEach visit as).on = as.mapM fun a => (visit a).on := by
  induction as with
  | nil => rfl
  | cons a as ih =>
      rw [List.mapM_cons, ← ih]
      show (visit a >>= fun b => forEach visit as >>= fun bs => pure (b :: bs)).on = _
      simp only [on_bind, on_pure]

end Walk

/-! ## The export on tokens -/

open Resolver (resolve)

/-- Places a component in a layout, with the tokens at hand. -/
def Node.resolvePlacement (n : Node) : LayoutKind → Resolver (List String)
  | .free => do
      let top ← resolve (.spacing (Pixels.truncate (n.computedPixels? "top")))
      let left ← resolve (.spacing (Pixels.truncate (n.computedPixels? "left")))
      return ["absolute", "top-" ++ top, "left-" ++ left]
  | .grid =>
      return ["w-full", "h-full",
        "col-start-" ++ n.gridStart "grid-column-start",
        "col-span-" ++ toString (n.gridSpan "grid-column-end"),
        "row-start-" ++ n.gridStart "grid-row-start",
        "row-span-" ++ toString (n.gridSpan "grid-row-end")]
  | .flex => return []

/-- Exports a component, with the tokens at hand. -/
def Component.resolve (registry : Registry) (layout : LayoutKind) (n : Node) : Resolver Component :=
  match registry.descriptorOf? n with
  | none => throw (.schemaMissing n.id n.tag)
  | some d => do
      let classes ← n.resolvePlacement layout
      let (props, innerText) := readParameters d n
      return { name := d.tag, id := n.id, data := { props, classes, innerText } }

/-- The class for the template of a grid along an axis, with the tokens at hand. -/
def Layout.resolveTemplate (n : Node) (axis : Axis) : Resolver String :=
  match (n.inline? axis.property).bind GridTemplate.cell? with
  | none => throw (.malformedGridTemplate n.id axis (n.inline? axis.property))
  | some size => do
      let token ← resolve (.cell axis size)
      return axis.classStem ++ token

/-- The classes for the templates of a layout, with the tokens at hand. -/
def Layout.resolveTemplates (n : Node) : LayoutKind → Resolver (List String)
  | .grid => [Axis.columns, Axis.rows].mapM (resolveTemplate n)
  | _ => return []

/-- Exports a layout, with the tokens at hand. -/
def Layout.resolve (registry : Registry) (n : Node) : Resolver Layout := do
  let kind := LayoutKind.ofNode n
  let height ← Resolver.resolve (.spacing (Pixels.round (n.computedPixels? "height")))
  let templates ← resolveTemplates n kind
  let components ← (n.childrenMarked Marker.component).mapM (Component.resolve registry kind)
  let markers := n.markers.filter (!Marker.layouts.contains ·)
  return { kind, classes := ("h-" ++ height) :: markers ++ templates, components }

/-- Exports a page, with the tokens at hand. -/
def Page.resolve (registry : Registry) (title : String) (n : Node) : Resolver Page := do
  let width ← Resolver.resolve (.spacing (Pixels.round (n.computedPixels? "width")))
  let background ← Resolver.resolve (.color n.backgroundColor)
  let layouts ← (n.childrenMarked Marker.container).mapM (Layout.resolve registry)
  return { title, classes := ["w-" ++ width, "bg-" ++ background], layouts }

/-- Exports a document on a copy of the tokens, which is kept where the export succeeds. -/
def Document.exportResolving (d : Document) (settings : Settings) (registry : Registry)
    (tokens : Tokens) : Except ExportError Artifact × Tokens :=
  match (d.pages.mapM (Page.resolve registry settings.pageTitle)).run.run tokens with
  | (.error e, _) => (.error e, tokens)
  | (.ok pages, copy) => (.ok ⟨settings.framework, settings.componentsLibrary, pages, copy⟩, copy)

/-! ## Both exports are the same -/

theorem Node.on_placementClasses (n : Node) (layout : LayoutKind) :
    (n.placementClasses layout).on = n.resolvePlacement layout := by
  cases layout with
  | free => simp only [placementClasses, resolvePlacement, Walk.on_bind, Walk.on_request,
      Walk.on_pure]
  | grid => rfl
  | flex => rfl

theorem Component.on_ofNode (registry : Registry) (layout : LayoutKind) (n : Node) :
    (ofNode registry layout n).on = resolve registry layout n := by
  unfold ofNode resolve
  cases registry.descriptorOf? n with
  | none => exact Walk.on_fail _
  | some d => simp only [ofDescribed, Walk.on_bind, Walk.on_pure, Node.on_placementClasses]

theorem Layout.on_templateClass (n : Node) (axis : Axis) :
    (templateClass n axis).on = resolveTemplate n axis := by
  unfold templateClass resolveTemplate
  dsimp only
  cases (n.inline? axis.property).bind GridTemplate.cell? with
  | none => exact Walk.on_fail _
  | some size => simp only [Walk.on_bind, Walk.on_request, Walk.on_pure]

theorem Layout.on_templateClasses (n : Node) (kind : LayoutKind) :
    (templateClasses n kind).on = resolveTemplates n kind := by
  cases kind with
  | grid => simp only [templateClasses, resolveTemplates, Walk.on_forEach, on_templateClass]
  | free => rfl
  | flex => rfl

theorem Layout.on_ofNode (registry : Registry) (n : Node) :
    (ofNode registry n).on = resolve registry n := by
  simp only [ofNode, resolve, Walk.on_bind, Walk.on_request, Walk.on_forEach, Walk.on_pure,
    Component.on_ofNode, on_templateClasses]

theorem Page.on_ofNode (registry : Registry) (title : String) (n : Node) :
    (ofNode registry title n).on = resolve registry title n := by
  simp only [ofNode, resolve, Walk.on_bind, Walk.on_request, Walk.on_forEach, Walk.on_pure,
    Layout.on_ofNode]

/-- **The export with requests is the export with tokens at hand.** -/
theorem Document.exportWith_eq_exportResolving (d : Document) (settings : Settings)
    (registry : Registry) (tokens : Tokens) :
    d.exportWith settings registry tokens = d.exportResolving settings registry tokens := by
  have hpages : (d.exportPages registry settings.pageTitle).on =
      d.pages.mapM (Page.resolve registry settings.pageTitle) := by
    simp only [exportPages, Walk.on_forEach, Page.on_ofNode]
  have hrun : (d.pages.mapM (Page.resolve registry settings.pageTitle)).run.run tokens =
      ((d.exportPages registry settings.pageTitle).outcome,
        (d.exportPages registry settings.pageTitle).tokensAfter tokens) := by
    rw [← hpages, Walk.run_on]
  rw [exportWith, exportResolving, hrun]
  cases (d.exportPages registry settings.pageTitle).outcome <;> rfl

end CanvasExport
