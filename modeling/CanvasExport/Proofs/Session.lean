import CanvasExport.Proofs.Footprint
/-!
# Tokens over a session

The custom tokens of an editor session change by single requests, by exports of a component, a layout
or a page, whether or not they fail, by exports of documents, and by a reset.  Whatever comes in is
the definition of a request for whole pixels, a color or a cell size (`Tokens.IsDefined`); each
operation keeps this, so it holds after any number of them (`isDefined_runAll`).  From it follows
what every entry looks like (`Operation.isWellFormed_runAll`).
-/

namespace CanvasExport

/-! ## Whole pixels -/

namespace Pixels

/-- A number of pixels that fits in 32 bits with a sign. -/
def InRange (px : Int) : Prop := least ≤ px ∧ px ≤ greatest

instance (px : Int) : Decidable (InRange px) := inferInstanceAs (Decidable (_ ∧ _))

/-- Whatever a length is made to is a number of pixels that fits. -/
theorem inRange_ofLength (whole : Bool → Nat → Int → Int) (length : Option Double) :
    InRange (ofLength whole length) := by
  have hclamp (n : Int) : InRange (Binary.clampInt least greatest n) := by
    unfold InRange Binary.clampInt least greatest
    omega
  cases length with
  | none =>
      show InRange 0
      decide
  | some x =>
      cases x with
      | nan => exact hclamp 0
      | infinite negative =>
          show InRange (if negative then least else greatest)
          cases negative <;> decide
      | finite negative m e h => exact hclamp (whole negative m e)

end Pixels

/-- A length that is requested is a number of pixels. -/
def TokenRequest.InRange : TokenRequest → Prop
  | .spacing px => Pixels.InRange px
  | _ => True

/-! ## Requests of walks -/

namespace Walk

/-- The lengths that are requested in the steps are numbers of pixels. -/
def StepsInRange (steps : List Step) : Prop := ∀ q, .request q ∈ steps → q.InRange

theorem Follows.inRange {α : Type} {w : Walk α} {steps : List Step} (h : w.Follows steps)
    (hsteps : StepsInRange steps) : ∀ q ∈ w.requests, q.InRange := by
  rw [h.requests]
  exact fun q hq => hsteps q (mem_of_mem_requestsUntilFault hq)

end Walk

namespace Node

open Walk

theorem placementSteps_inRange (n : Node) (layout : LayoutKind) :
    StepsInRange (n.placementSteps layout) := by
  intro q hq
  cases q with
  | spacing px =>
      obtain ⟨-, rfl | rfl⟩ := spacing_mem_placementSteps.1 hq
      · exact Pixels.inRange_ofLength _ _
      · exact Pixels.inRange_ofLength _ _
  | color text => trivial
  | cell axis size => trivial

theorem componentSteps_inRange (registry : Registry) (layout : LayoutKind) (n : Node) :
    StepsInRange (n.componentSteps registry layout) :=
  fun q hq => n.placementSteps_inRange layout q (request_mem_componentSteps.1 hq)

theorem containerSteps_inRange (registry : Registry) (n : Node) :
    StepsInRange (n.containerSteps registry) := by
  intro q hq
  rw [containerSteps, List.mem_cons, List.mem_append, List.mem_flatMap] at hq
  rcases hq with hq | hq | ⟨c, -, hq⟩
  · cases hq
    exact Pixels.inRange_ofLength _ _
  · cases q with
    | spacing px => exact absurd hq spacing_notMem_templateSteps
    | color text => trivial
    | cell axis size => trivial
  · exact c.componentSteps_inRange registry _ q hq

theorem pageSteps_inRange (registry : Registry) (n : Node) :
    StepsInRange (n.pageSteps registry) := by
  intro q hq
  rw [pageSteps, List.mem_cons, List.mem_cons, List.mem_flatMap] at hq
  rcases hq with hq | hq | ⟨c, -, hq⟩
  · cases hq
    exact Pixels.inRange_ofLength _ _
  · cases hq
    trivial
  · exact c.containerSteps_inRange registry q hq

end Node

theorem Document.steps_inRange (registry : Registry) (d : Document) :
    Walk.StepsInRange (d.steps registry) := by
  intro q hq
  obtain ⟨p, -, hq⟩ := List.mem_flatMap.1 hq
  exact p.pageSteps_inRange registry q hq

/-! ## Operations -/

/-- What is done with the tokens in a session. -/
inductive Operation
  /-- A token for a length is requested. -/
  | spacing (px : Int) (inRange : Pixels.InRange px)
  /-- A token for a color is requested. -/
  | color (text : String)
  /-- A template for a cell size is requested. -/
  | cell (axis : Axis) (size : Double)
  /-- A component is exported on its own. -/
  | component (registry : Registry) (kind : LayoutKind) (n : Node)
  /-- A component is exported on its own, with a descriptor at hand. -/
  | describedComponent (descriptor : Descriptor) (kind : LayoutKind) (n : Node)
  /-- A layout is exported on its own. -/
  | layout (registry : Registry) (n : Node)
  /-- A page is exported on its own. -/
  | page (registry : Registry) (title : String) (n : Node)
  /-- A document is exported. -/
  | document (d : Document) (settings : Settings) (registry : Registry)
  /-- All definitions are dropped. -/
  | reset

namespace Operation

/-- The tokens after an operation.  What is exported on its own leaves the tokens that it has
requested up to an error; the export of a document does not. -/
def run (t : Tokens) : Operation → Tokens
  | spacing px _ => t.register (.spacing px)
  | color text => t.register (.color text)
  | cell axis size => t.register (.cell axis size)
  | component registry kind n => (Component.ofNode registry kind n).tokensAfter t
  | describedComponent d kind n => (Component.ofDescribed d kind n).tokensAfter t
  | layout registry n => (Layout.ofNode registry n).tokensAfter t
  | page registry title n => (Page.ofNode registry title n).tokensAfter t
  | document d settings registry => (d.exportWith settings registry t).2
  | reset => {}

/-- The tokens of a session after operations in a row; there are none at first. -/
def runAll (operations : List Operation) : Tokens := operations.foldl run {}

/-- Any operation but a reset registers requests, and lengths among them are numbers of pixels. -/
theorem run_eq_registerAll {o : Operation} (h : o ≠ reset) (t : Tokens) :
    ∃ requests : List TokenRequest, (∀ q ∈ requests, q.InRange) ∧ o.run t = t.registerAll requests := by
  cases o with
  | spacing px hpx => exact ⟨[.spacing px], List.forall_mem_singleton.2 hpx, rfl⟩
  | color text => exact ⟨[.color text], List.forall_mem_singleton.2 trivial, rfl⟩
  | cell axis size => exact ⟨[.cell axis size], List.forall_mem_singleton.2 trivial, rfl⟩
  | component registry kind n =>
      exact ⟨_, (Component.follows_ofNode registry kind n).inRange
        (n.componentSteps_inRange registry kind), rfl⟩
  | describedComponent d kind n =>
      have hfollows : (Component.ofDescribed d kind n).Follows (n.placementSteps kind) :=
        (n.follows_placementClasses kind).bind_pure _
      exact ⟨_, hfollows.inRange (n.placementSteps_inRange kind), rfl⟩
  | layout registry n =>
      exact ⟨_, (Layout.follows_ofNode registry n).inRange (n.containerSteps_inRange registry), rfl⟩
  | page registry title n =>
      exact ⟨_, (Page.follows_ofNode registry title n).inRange (n.pageSteps_inRange registry), rfl⟩
  | document d settings registry =>
      cases hwalk : (d.exportPages registry settings.pageTitle).outcome with
      | error e =>
          refine ⟨[], List.forall_mem_nil _, ?_⟩
          rw [run, Document.exportWith_of_error hwalk]
          rfl
      | ok pages =>
          refine ⟨_, (d.follows_exportPages registry settings.pageTitle).inRange
            (d.steps_inRange registry), ?_⟩
          rw [run, Document.exportWith_of_ok hwalk]
          rfl
  | reset => exact absurd rfl h

end Operation

/-! ## What the entries are -/

namespace Tokens

/-- Every entry of the one is an entry of the other. -/
def Extends (s t : Tokens) : Prop :=
  ∀ family name value, (s.dict family).get? name = some value →
    (t.dict family).get? name = some value

/-- Each entry is the definition of a request, and a length among these is a number of pixels. -/
def IsDefined (t : Tokens) : Prop :=
  ∀ family name value, (t.dict family).get? name = some value →
    ∃ q : TokenRequest, q.InRange ∧ q.family = family ∧ q.definition? = some (name, value)

theorem isDefined_empty : IsDefined {} := by
  intro family name value h
  rw [dict_empty, Dict.get?_empty] at h
  cases h

/-- Requests do not change what is there. -/
theorem extends_registerAll (t : Tokens) (requests : List TokenRequest) :
    t.Extends (t.registerAll requests) := by
  intro family name value h
  rw [get?_registerAll, h, Option.some_or]

/-- What requests bring in is defined by them. -/
theorem IsDefined.registerAll {t : Tokens} (ht : t.IsDefined) {requests : List TokenRequest}
    (hrequests : ∀ q ∈ requests, q.InRange) : (t.registerAll requests).IsDefined := by
  intro family name value h
  rw [get?_registerAll, Option.or_eq_some_iff] at h
  rcases h with h | ⟨-, h⟩
  · exact ht family name value h
  · obtain ⟨q, hq, hfamily, hdefinition⟩ :=
      TokenFamily.mem_definitions.1 (Dict.mem_of_lookup_eq_some h)
    exact ⟨q, hrequests q hq, hfamily, hdefinition⟩

/-- How entries look.  A spacing token is a number of pixels in quarters and stands for it in
sixteenths, in rem; the pixels are not on the fixed scale, and the token is none of it.  A template
repeats the size that its token tells.  A color is not in the palette, and its key is the color
without one leading `#`. -/
structure IsWellFormed (t : Tokens) : Prop where
  spacing : ∀ name value, t.spacing.get? name = some value →
    (∃ px, Pixels.InRange px ∧ Spacing.builtin? px = none ∧ name = Spacing.expansion px 2 ∧
      value = Spacing.expansion px 4 ++ "rem") ∧ name ∉ Spacing.scale.map Prod.snd
  templates : ∀ (axis : Axis) name value, (t.dict axis.family).get? name = some value →
    ∃ size : Double, name = "auto-" ++ size.toText ++ "px" ∧
      value = "repeat(auto-fill, " ++ size.toText ++ "px)"
  colors : ∀ name value, t.colors.get? name = some value →
    Palette.builtin? value = none ∧
      (value = "#" ++ name ∨ value = name ∧ name.toList.head? ≠ some '#')

end Tokens

/-- The token of a length that is not on the fixed scale is none of it. -/
theorem Spacing.expansion_notMem_scale {px : Int} (h : builtin? px = none) :
    expansion px 2 ∉ scale.map Prod.snd := by
  intro hmem
  obtain ⟨⟨px', token⟩, hscale, htoken⟩ := List.mem_map.1 hmem
  dsimp only at htoken
  rw [eq_of_mem_scale hscale] at htoken
  split at htoken
  · exact absurd htoken.symm (expansion_ne_px px 2)
  · have hsame : px' = px := expansion_injective 2 htoken
    have hne := List.lookup_eq_none_iff.1 h (px', token) hscale
    rw [hsame, bne_self_eq_false] at hne
    cases hne

/-- A color is its key, or the key behind a `#`. -/
theorem Palette.eq_key_or (color : String) :
    color = "#" ++ key color ∨ color = key color ∧ (key color).toList.head? ≠ some '#' := by
  unfold key
  cases hafter : Text.after? ['#'] color.toList with
  | some rest =>
      left
      rw [← String.toList_inj, Text.after?_eq_some_iff.1 hafter, String.toList_append]
      simp
  | none =>
      right
      rw [Option.getD_none, String.ofList_toList]
      refine ⟨rfl, fun hhead => ?_⟩
      obtain ⟨rest, hrest⟩ := List.head?_eq_some_iff.1 hhead
      rw [Text.after?_eq_some_iff.2 hrest] at hafter
      cases hafter

/-- Entries that are defined by requests look as they should. -/
theorem Tokens.IsDefined.isWellFormed {t : Tokens} (ht : t.IsDefined) : t.IsWellFormed := by
  constructor
  · intro name value h
    obtain ⟨q, hrange, hfamily, hdefinition⟩ := ht .spacing name value h
    obtain ⟨px, rfl⟩ := TokenRequest.family_eq_spacing_iff.1 hfamily
    obtain ⟨hbuiltin, rfl, rfl⟩ := Spacing.definition?_eq_some_iff.1 hdefinition
    exact ⟨⟨px, hrange, hbuiltin, rfl, rfl⟩, Spacing.expansion_notMem_scale hbuiltin⟩
  · intro axis name value h
    obtain ⟨q, -, hfamily, hdefinition⟩ := ht axis.family name value h
    obtain ⟨size, rfl⟩ := TokenRequest.family_eq_axis_family_iff.1 hfamily
    cases hdefinition
    exact ⟨size, rfl, rfl⟩
  · intro name value h
    obtain ⟨q, -, hfamily, hdefinition⟩ := ht .colors name value h
    obtain ⟨text, rfl⟩ := TokenRequest.family_eq_colors_iff.1 hfamily
    obtain ⟨hbuiltin, rfl, rfl⟩ := Palette.definition?_eq_some_iff.1 hdefinition
    exact ⟨hbuiltin, Palette.eq_key_or _⟩

namespace Operation

/-- One operation keeps that all entries are defined by requests. -/
theorem isDefined_run {t : Tokens} (ht : t.IsDefined) (o : Operation) : (o.run t).IsDefined := by
  by_cases h : o = reset
  · rw [h]
    exact Tokens.isDefined_empty
  · obtain ⟨requests, hrequests, hrun⟩ := run_eq_registerAll h t
    rw [hrun]
    exact ht.registerAll hrequests

/-- One operation but a reset keeps all entries. -/
theorem extends_run {o : Operation} (h : o ≠ reset) (t : Tokens) : t.Extends (o.run t) := by
  obtain ⟨requests, -, hrun⟩ := run_eq_registerAll h t
  rw [hrun]
  exact t.extends_registerAll requests

/-- All entries of a session are defined by requests. -/
theorem isDefined_runAll (operations : List Operation) : (runAll operations).IsDefined := by
  have hfold (t : Tokens) (ht : t.IsDefined) : (operations.foldl run t).IsDefined := by
    induction operations generalizing t with
    | nil => exact ht
    | cons o operations ih => exact ih (o.run t) (isDefined_run ht o)
  exact hfold {} Tokens.isDefined_empty

/-- Where no other request defines a name otherwise, a request in a session defines it. -/
theorem get?_register_of_unique {q : TokenRequest} {name value : String}
    (h : q.definition? = some (name, value))
    (hunique : ∀ other : TokenRequest, other.family = q.family →
      ∀ value', other.definition? = some (name, value') → value' = value)
    (operations : List Operation) :
    (((runAll operations).register q).dict q.family).get? name = some value := by
  rw [Tokens.get?_register_of_definition? h]
  cases hold : ((runAll operations).dict q.family).get? name with
  | none => rfl
  | some value' =>
      obtain ⟨other, -, hfamily, hdefinition⟩ := isDefined_runAll operations _ _ _ hold
      rw [hunique other hfamily value' hdefinition]
      rfl

/-- **The tokens of a session.**  After any operations all entries look as they should, and any further
one but a reset only adds entries. -/
theorem isWellFormed_runAll (operations : List Operation) :
    (runAll operations).IsWellFormed ∧
      ∀ o, o ≠ reset → (runAll operations).Extends (runAll (operations ++ [o])) := by
  refine ⟨(isDefined_runAll operations).isWellFormed, fun o ho => ?_⟩
  have hlast : runAll (operations ++ [o]) = o.run (runAll operations) := List.foldl_concat ..
  rw [hlast]
  exact extends_run ho _

end Operation

end CanvasExport
