import CanvasExport.Proofs.NumberText
import CanvasExport.Proofs.Pages
import CanvasExport.Proofs.Readings
/-!
# Numbers and texts of computed values

A computed value that is a bare number can be spelled as a text: as the text of the number, and where
a length is expected also with its unit and with blanks around both.  However the values in a document
are spelled, its export is the same (`Document.exportWith_spelledAs`).
-/

namespace CanvasExport

/-! ## Values -/

namespace StyleValue

/-- The properties of which nothing but the length is asked for. -/
def lengthProperties : List String := ["width", "height", "top", "left"]

/-- A value of a property may stand as it is; a number may stand as its text, and in the place of a
length as its text with the unit, with blanks around. -/
inductive SpelledAs (property : String) : StyleValue → StyleValue → Prop
  | same (v : StyleValue) : SpelledAs property v v
  | text (x : Double) : SpelledAs property (.number x) (.text x.toText)
  | length (x : Double) {before after : String} (hproperty : property ∈ lengthProperties)
      (hbefore : ∀ c ∈ before.toList, Text.isBlank c = true)
      (hafter : ∀ c ∈ after.toList, Text.isBlank c = true) :
      SpelledAs property (.number x) (.text (before ++ x.toText ++ "px" ++ after))

/-- However it is spelled, a value is as long. -/
theorem SpelledAs.pixels?_eq {property : String} {v v' : StyleValue} (h : SpelledAs property v v') :
    v'.pixels? = v.pixels? := by
  cases h with
  | same => rfl
  | text x =>
      show pixelsOfChars? x.toText.toList = _
      rw [Binary.toText, String.toList_ofList]
      exact pixelsOfChars?_toChars x
  | @length x before after _ hbefore hafter =>
      have hchars : (before ++ x.toText ++ "px" ++ after).toList =
          before.toList ++ (x.toChars ++ ['p', 'x'] ++ after.toList) := by
        simp [Binary.toText]
      show pixelsOfChars? (before ++ x.toText ++ "px" ++ after).toList = _
      rw [hchars]
      exact pixelsOfChars?_unit hbefore hafter x

/-- Where no length is expected a value has the same text. -/
theorem SpelledAs.toText_eq {property : String} (hproperty : property ∉ lengthProperties)
    {v v' : StyleValue} (h : SpelledAs property v v') : v'.toText = v.toText := by
  cases h with
  | same => rfl
  | text => rfl
  | length _ hlength => exact absurd hlength hproperty

end StyleValue

/-! ## Nodes -/

namespace Node

/-- Any of the computed values in the tree may be spelled in another way. -/
inductive SpelledAs : Node → Node → Prop
  | intro (n : Node) (computed : Dict StyleValue) (children : List Node)
      (hcomputed : ∀ property,
        Option.Rel (StyleValue.SpelledAs property) (n.computed? property) (computed.get? property))
      (hchildren : List.Forall₂ SpelledAs n.children children) :
      SpelledAs n { n with computed, children }

namespace SpelledAs

/-- All values may stay as they are. -/
theorem refl (n : Node) : n.SpelledAs n := by
  induction n using children_induction with
  | h n ih =>
      have hcomputed (property : String) :
          Option.Rel (StyleValue.SpelledAs property) (n.computed? property)
            (n.computed.get? property) := by
        rw [computed?]
        cases n.computed.get? property with
        | none => exact .none
        | some v => exact .some (.same v)
      have hsame := SpelledAs.intro n n.computed n.children hcomputed (List.forall₂_same.2 ih)
      cases n
      exact hsame

section

variable {n n' : Node} (h : n.SpelledAs n')
include h

/-- A property may be set to either spelling of a value. -/
theorem withComputed {property : String} {v v' : StyleValue}
    (hv : StyleValue.SpelledAs property v v') :
    (n.withComputed property v).SpelledAs (n'.withComputed property v') := by
  obtain ⟨n, computed, children, hcomputed, hchildren⟩ := h
  refine .intro (n.withComputed property v) (computed.insert property v') children ?_ hchildren
  intro other
  show Option.Rel _ ((n.computed.insert property v).get? other)
    ((computed.insert property v').get? other)
  rw [Dict.get?_insert, Dict.get?_insert]
  by_cases hother : other = property
  · rw [if_pos hother, if_pos hother, hother]
    exact .some hv
  · rw [if_neg hother, if_neg hother]
    exact hcomputed other

theorem computed (property : String) :
    Option.Rel (StyleValue.SpelledAs property) (n.computed? property) (n'.computed? property) := by
  cases h with
  | intro _ _ _ hcomputed _ => exact hcomputed property

theorem children : List.Forall₂ SpelledAs n.children n'.children := by
  cases h with
  | intro _ _ _ _ hchildren => exact hchildren

theorem kind_eq : n'.kind = n.kind := by cases h; rfl

theorem markers_eq : n'.markers = n.markers := by cases h; rfl

/-- A computed value is as long as before. -/
theorem computedPixels?_eq (property : String) :
    n'.computedPixels? property = n.computedPixels? property := by
  have hvalue := h.computed property
  unfold computedPixels?
  generalize n.computed? property = v, n'.computed? property = v' at hvalue ⊢
  cases hvalue with
  | none => rfl
  | some hspelled => exact hspelled.pixels?_eq

/-- Where no length is expected a computed value has the same text as before. -/
theorem computedText?_eq {property : String} (hproperty : property ∉ StyleValue.lengthProperties) :
    n'.computedText? property = n.computedText? property := by
  have hvalue := h.computed property
  unfold computedText?
  generalize n.computed? property = v, n'.computed? property = v' at hvalue ⊢
  cases hvalue with
  | none => rfl
  | some hspelled => exact congrArg some (hspelled.toText_eq hproperty)

/-- The background is the same: neither a number nor its text notes a color. -/
theorem backgroundColor_eq : n'.backgroundColor = n.backgroundColor := by
  have hproperty : "background-color" ∉ StyleValue.lengthProperties := by decide
  have hcolor : n'.computedColor? "background-color" = n.computedColor? "background-color" := by
    have hvalue := h.computed "background-color"
    unfold computedColor?
    generalize n.computed? "background-color" = v, n'.computed? "background-color" = v' at hvalue ⊢
    cases hvalue with
    | none => rfl
    | some hspelled =>
        cases hspelled with
        | same => rfl
        | text x => exact Rgba.parse?_toText x
        | length _ hlength => exact absurd hlength hproperty
  rw [backgroundColor, backgroundColor, hcolor, h.computedText?_eq hproperty]

/-- The children with a marker are the same ones. -/
theorem childrenMarked (marker : String) :
    List.Forall₂ SpelledAs (n.childrenMarked marker) (n'.childrenMarked marker) := by
  refine List.rel_filter ?_ h.children
  intro c c' hc
  show c.hasMarker marker = true ↔ c'.hasMarker marker = true
  rw [hasMarker_congr hc.markers_eq]

/-- The component is the same one. -/
theorem agreeAsComponent (registry : Registry) (layout : LayoutKind) :
    n.AgreeAsComponent registry layout n' := by
  constructor
  case id => cases h; rfl
  case tag => cases h; rfl
  case attributes =>
    intro d _ p _
    cases h
    rfl
  case offsets => exact fun _ property _ => h.computedPixels?_eq property
  case lines =>
    intro _ property hline
    have hproperty : ∀ line ∈ LayoutKind.placementProperties .grid,
        line ∉ StyleValue.lengthProperties := by decide
    exact h.computedText?_eq (hproperty property hline)

/-- The container is the same one. -/
theorem agreeAsContainer (registry : Registry) : n.AgreeAsContainer registry n' := by
  constructor
  case id => cases h; rfl
  case markers => exact h.markers_eq
  case height => exact h.computedPixels?_eq "height"
  case templates =>
    intro _ axis
    cases h
    rfl
  case components =>
    exact (h.childrenMarked Marker.component).imp fun _ _ hc => hc.agreeAsComponent registry _

/-- The page is the same one. -/
theorem agreeAsPage (registry : Registry) : n.AgreeAsPage registry n' := by
  constructor
  case width => exact h.computedPixels?_eq "width"
  case background => exact h.backgroundColor_eq
  case containers =>
    exact (h.childrenMarked Marker.container).imp fun _ _ hc => hc.agreeAsContainer registry

end

end SpelledAs

end Node

/-! ## Documents -/

namespace Document

/-- Any of the computed values in the document may be spelled in another way. -/
def SpelledAs (d d' : Document) : Prop := List.Forall₂ Node.SpelledAs d.roots d'.roots

/-- The same pages are found. -/
theorem forall₂_searchPages {pending pending' : List Node}
    (h : List.Forall₂ Node.SpelledAs pending pending') :
    List.Forall₂ Node.SpelledAs (searchPages pending) (searchPages pending') := by
  -- the cases are the moves of the search: nothing is pending, a page, any other node
  induction pending using searchPages.induct generalizing pending' with
  | case1 =>
      rw [List.forall₂_nil_left_iff.1 h, searchPages]
      exact .nil
  | case2 n pending hn ih =>
      obtain ⟨n', rest, hhead, hrest, rfl⟩ := List.forall₂_cons_left_iff.1 h
      rw [searchPages, if_pos hn, searchPages, if_pos (hhead.kind_eq.trans hn)]
      exact .cons hhead (ih hrest)
  | case3 n pending hn ih =>
      obtain ⟨n', rest, hhead, hrest, rfl⟩ := List.forall₂_cons_left_iff.1 h
      have hn' : ¬ n'.kind = .page := by rwa [hhead.kind_eq]
      rw [searchPages, if_neg hn, searchPages, if_neg hn']
      exact ih (List.rel_append hhead.children hrest)

/-- The pages are the same ones. -/
theorem SpelledAs.agree {d d' : Document} (h : d.SpelledAs d') (registry : Registry) :
    d.Agree registry d' :=
  (forall₂_searchPages h).imp fun _ _ hn => hn.agreeAsPage registry

/-- **It does not matter how a computed value is spelled.**  A document in which any of the bare
numbers are replaced by texts has the same export, with the same artifact or the same error, and the
same tokens after it. -/
theorem exportWith_spelledAs {d d' : Document} (h : d.SpelledAs d') (settings : Settings)
    (registry : Registry) (tokens : Tokens) :
    d'.exportWith settings registry tokens = d.exportWith settings registry tokens :=
  (h.agree registry).exportWith_eq settings tokens

/-- A page whose computed values are bare numbers. -/
def numberSample : Document where
  roots :=
    [(Node.page "page").withComputed "width" (.number (Binary.ofInt .double 100))
      |>.withComputed "background-color" (.number .nan)]

/-- The page with texts in their place. -/
def textSample : Document where
  roots :=
    [(Node.page "page").withComputed "width" (.text "\t100px ")
      |>.withComputed "background-color" (.text "NaN")]

theorem spelledAs_textSample : numberSample.SpelledAs textSample := by
  have hwidth : StyleValue.SpelledAs "width" (.number (Binary.ofInt .double 100))
      (.text "\t100px ") := by
    have htext : "\t" ++ (Binary.ofInt .double 100).toText ++ "px" ++ " " = "\t100px " := by
      decide +kernel
    rw [← htext]
    exact .length _ (by decide) (List.all_eq_true.1 (by decide)) (List.all_eq_true.1 (by decide))
  have hbackground : StyleValue.SpelledAs "background-color" (.number .nan) (.text "NaN") :=
    .text .nan
  exact .cons (((Node.SpelledAs.refl _).withComputed hwidth).withComputed hbackground) .nil

/-- The page of numbers and the page of texts have the same export. -/
theorem exportWith_spelledAs_sample :
    numberSample ≠ textSample ∧
      textSample.exportWith {} .empty {} = numberSample.exportWith {} .empty {} :=
  ⟨by decide, exportWith_spelledAs spelledAs_textSample {} .empty {}⟩

end Document

end CanvasExport
