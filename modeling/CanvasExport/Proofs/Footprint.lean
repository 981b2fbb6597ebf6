import CanvasExport.Proofs.Export
import CanvasExport.Proofs.Spacing
import CanvasExport.Proofs.Steps
/-!
# The footprint of an export

The custom tokens of a fresh export are exactly those that its document needs
(`Document.isFootprint_of_exportFresh_eq_ok`): one for a length that some node has and that is not on
the fixed scale, one for a cell size of some grid, and one for the first color of a key among the
backgrounds of the pages.
-/

namespace CanvasExport

/-! ## What a document needs -/

/-- The lengths of a document: the width of a page, the height of a container in it, and the offsets
of a component in a free container. -/
inductive Document.HasLength (d : Document) : Int → Prop
  | width {p : Node} (hp : p ∈ d.outermostPages) :
      HasLength d (Pixels.round (p.computedPixels? "width"))
  | height {p c : Node} (hp : p ∈ d.outermostPages) (hc : c ∈ p.childrenMarked Marker.container) :
      HasLength d (Pixels.round (c.computedPixels? "height"))
  | top {p c n : Node} (hp : p ∈ d.outermostPages) (hc : c ∈ p.childrenMarked Marker.container)
      (hfree : LayoutKind.ofNode c = .free) (hn : n ∈ c.childrenMarked Marker.component) :
      HasLength d (Pixels.truncate (n.computedPixels? "top"))
  | left {p c n : Node} (hp : p ∈ d.outermostPages) (hc : c ∈ p.childrenMarked Marker.container)
      (hfree : LayoutKind.ofNode c = .free) (hn : n ∈ c.childrenMarked Marker.component) :
      HasLength d (Pixels.truncate (n.computedPixels? "left"))

/-- The cell sizes of a document along an axis: those of the grids in its pages. -/
inductive Document.HasCell (d : Document) (axis : Axis) : Double → Prop
  | grid {p c : Node} {template : String} {size : Double} (hp : p ∈ d.outermostPages)
      (hc : c ∈ p.childrenMarked Marker.container) (hgrid : LayoutKind.ofNode c = .grid)
      (htemplate : c.inline? axis.property = some template)
      (hsize : GridTemplate.cell? template = some size) : HasCell d axis size

/-- The tokens that a document needs, and no others.  A spacing token is there exactly for a length of
the document that is not on the fixed scale, and a template exactly for a cell size along its axis;
both are named and defined by the number.  A color key stands for the first background in page order
that the palette lacks and that has the key. -/
structure Document.IsFootprint (d : Document) (t : Tokens) : Prop where
  spacing : ∀ name value, t.spacing.get? name = some value ↔
    ∃ px, d.HasLength px ∧ Spacing.builtin? px = none ∧ name = Spacing.expansion px 2 ∧
      value = Spacing.expansion px 4 ++ "rem"
  templates : ∀ axis name value, (t.dict axis.family).get? name = some value ↔
    ∃ size, d.HasCell axis size ∧ name = "auto-" ++ size.toText ++ "px" ∧
      value = "repeat(auto-fill, " ++ size.toText ++ "px)"
  colors : ∀ key, t.colors.get? key =
    ((d.outermostPages.map fun p => Palette.normal p.backgroundColor).filter fun c =>
      (Palette.builtin? c).isNone).find? fun c => Palette.key c == key

/-! ## Lengths -/

theorem Node.spacing_mem_placementSteps {px : Int} {layout : LayoutKind} {n : Node} :
    .request (.spacing px) ∈ n.placementSteps layout ↔
      layout = .free ∧ (px = Pixels.truncate (n.computedPixels? "top") ∨
        px = Pixels.truncate (n.computedPixels? "left")) := by
  cases layout <;> simp [placementSteps]

theorem Node.spacing_notMem_templateSteps {px : Int} {layout : LayoutKind} {n : Node} :
    .request (.spacing px) ∉ n.templateSteps layout := by
  have hstep (axis : Axis) : .request (.spacing px) ≠ n.templateStep axis := by
    unfold templateStep
    cases n.cellSize? axis <;> simp
  cases layout <;> simp [templateSteps, hstep]

/-- What a component requests does not depend on its descriptor. -/
theorem Node.request_mem_componentSteps {registry : Registry} {q : TokenRequest}
    {layout : LayoutKind} {n : Node} :
    .request q ∈ n.componentSteps registry layout ↔ .request q ∈ n.placementSteps layout := by
  unfold componentSteps
  cases registry.descriptorOf? n <;> simp

/-- An export requests the lengths of its document. -/
theorem Document.spacing_mem_steps {d : Document} {registry : Registry} {px : Int} :
    .request (.spacing px) ∈ d.steps registry ↔ d.HasLength px := by
  simp only [mem_steps, Walk.Step.request.injEq, TokenRequest.spacing.injEq, reduceCtorEq,
    Node.spacing_notMem_templateSteps, Node.request_mem_componentSteps,
    Node.spacing_mem_placementSteps, false_or]
  constructor
  · rintro ⟨p, hp, rfl | ⟨c, hc, rfl | ⟨n, hn, hfree, rfl | rfl⟩⟩⟩
    · exact .width hp
    · exact .height hp hc
    · exact .top hp hc hfree hn
    · exact .left hp hc hfree hn
  · rintro (hp | ⟨hp, hc⟩ | ⟨hp, hc, hfree, hn⟩ | ⟨hp, hc, hfree, hn⟩)
    · exact ⟨_, hp, .inl rfl⟩
    · exact ⟨_, hp, .inr ⟨_, hc, .inl rfl⟩⟩
    · exact ⟨_, hp, .inr ⟨_, hc, .inr ⟨_, hn, hfree, .inl rfl⟩⟩⟩
    · exact ⟨_, hp, .inr ⟨_, hc, .inr ⟨_, hn, hfree, .inr rfl⟩⟩⟩

/-! ## Cell sizes -/

theorem Node.cell_eq_templateStep_iff {axis other : Axis} {size : Double} {n : Node} :
    .request (.cell axis size) = n.templateStep other ↔
      axis = other ∧ n.cellSize? axis = some size := by
  unfold templateStep
  cases h : n.cellSize? other with
  | none =>
      constructor
      · intro e
        cases e
      · rintro ⟨rfl, hsize⟩
        rw [h] at hsize
        cases hsize
  | some other' =>
      constructor
      · intro e
        cases e
        exact ⟨rfl, h⟩
      · rintro ⟨rfl, hsize⟩
        rw [h] at hsize
        cases hsize
        rfl

theorem Node.cell_mem_templateSteps {axis : Axis} {size : Double} {layout : LayoutKind} {n : Node} :
    .request (.cell axis size) ∈ n.templateSteps layout ↔
      layout = .grid ∧ n.cellSize? axis = some size := by
  cases layout with
  | free => simp [templateSteps]
  | flex => simp [templateSteps]
  | grid => cases axis <;> simp [templateSteps, cell_eq_templateStep_iff]

theorem Node.cell_notMem_placementSteps {axis : Axis} {size : Double} {layout : LayoutKind}
    {n : Node} : .request (.cell axis size) ∉ n.placementSteps layout := by
  cases layout <;> simp [placementSteps]

/-- An export requests the cell sizes of its document. -/
theorem Document.cell_mem_steps {d : Document} {registry : Registry} {axis : Axis}
    {size : Double} : .request (.cell axis size) ∈ d.steps registry ↔ d.HasCell axis size := by
  simp only [mem_steps, Walk.Step.request.injEq, reduceCtorEq, Node.cell_mem_templateSteps,
    Node.request_mem_componentSteps, Node.cell_notMem_placementSteps, and_false, exists_false,
    false_or, or_false]
  constructor
  · rintro ⟨p, hp, c, hc, hgrid, hcell⟩
    obtain ⟨template, htemplate, hsize⟩ := Option.bind_eq_some_iff.1 hcell
    exact .grid hp hc hgrid htemplate hsize
  · rintro ⟨hp, hc, hgrid, htemplate, hsize⟩
    exact ⟨_, hp, _, hc, hgrid, Option.bind_eq_some_iff.2 ⟨_, htemplate, hsize⟩⟩

/-! ## Colors -/

theorem Node.color_notMem_containerSteps {registry : Registry} {text : String} {c : Node} :
    .request (.color text) ∉ c.containerSteps registry := by
  have htemplate (axis : Axis) : .request (.color text) ≠ c.templateStep axis := by
    unfold templateStep
    cases c.cellSize? axis <;> simp
  have hplacement (n : Node) (layout : LayoutKind) :
      .request (.color text) ∉ n.placementSteps layout := by
    cases layout <;> simp [placementSteps]
  have htemplates (layout : LayoutKind) : .request (.color text) ∉ c.templateSteps layout := by
    cases layout <;> simp [templateSteps, htemplate]
  simp [containerSteps, request_mem_componentSteps, hplacement, htemplates]

/-- A container brings in no color. -/
theorem Node.colors_definitions_containerSteps (registry : Registry) (c : Node) :
    TokenFamily.colors.definitions (Walk.requestsIn (c.containerSteps registry)) = [] := by
  refine List.filterMap_eq_nil_iff.2 fun q hq => if_neg ?_
  cases q with
  | spacing px => simp [TokenRequest.family]
  | color text => exact absurd (Walk.mem_requestsIn.1 hq) color_notMem_containerSteps
  | cell axis size => cases axis <;> simp [TokenRequest.family, Axis.family]

/-- A page brings in its background. -/
theorem Node.colors_definitions_pageSteps (registry : Registry) (p : Node) :
    TokenFamily.colors.definitions (Walk.requestsIn (p.pageSteps registry)) =
      (Palette.definition? p.backgroundColor).toList := by
  have hrequests : Walk.requestsIn (p.pageSteps registry) =
      .spacing (Pixels.round (p.computedPixels? "width")) :: .color p.backgroundColor ::
        Walk.requestsIn ((p.childrenMarked Marker.container).flatMap (containerSteps registry)) :=
    rfl
  have hcontainers : TokenFamily.colors.definitions (Walk.requestsIn
      ((p.childrenMarked Marker.container).flatMap (containerSteps registry))) = [] := by
    rw [Walk.requestsIn_flatMap, TokenFamily.definitions_flatMap, List.flatMap_eq_nil_iff]
    exact fun c _ => c.colors_definitions_containerSteps registry
  have hwidth : TokenRequest.definitionIn? .colors
      (.spacing (Pixels.round (p.computedPixels? "width"))) = none :=
    if_neg fun h => TokenFamily.noConfusion h
  have hbackground : TokenRequest.definitionIn? .colors (.color p.backgroundColor) =
      Palette.definition? p.backgroundColor := if_pos rfl
  rw [TokenFamily.definitions] at hcontainers
  rw [TokenFamily.definitions, hrequests, List.filterMap_cons_none hwidth, List.filterMap_cons,
    hbackground, hcontainers]
  cases Palette.definition? p.backgroundColor <;> rfl

/-- The colors that an export brings in are those of the backgrounds of its pages, in order. -/
theorem Document.colors_definitions_requests (d : Document) (registry : Registry) :
    TokenFamily.colors.definitions (d.requests registry) =
      (d.outermostPages.map Node.backgroundColor).filterMap Palette.definition? := by
  rw [requests, steps, Walk.requestsIn_flatMap, TokenFamily.definitions_flatMap,
    List.filterMap_map, List.filterMap_eq_flatMap_toList]
  refine List.flatMap_congr fun p _ => ?_
  rw [Node.colors_definitions_pageSteps, Function.comp_apply]

/-- Of the colors that the palette lacks the first one with the key is defined under it. -/
theorem Palette.lookup_filterMap_definition? (texts : List String) (key : String) :
    (texts.filterMap definition?).lookup key =
      ((texts.map normal).filter fun c => (builtin? c).isNone).find? fun c =>
        Palette.key c == key := by
  induction texts with
  | nil => rfl
  | cons text texts ih =>
      rw [List.filterMap_cons, List.map_cons, List.filter_cons]
      cases hbuiltin : builtin? (normal text) with
      | some token =>
          simp only [definition?, hbuiltin]
          exact ih
      | none =>
          simp only [definition?, hbuiltin, Option.isNone_none, if_true]
          rw [Dict.lookup_cons_eq_ite, List.find?_cons, ih]
          by_cases h : key = Palette.key (normal text)
          · rw [if_pos h, h, beq_self_eq_true]
          · rw [if_neg h, beq_eq_false_iff_ne.2 (Ne.symm h)]

/-! ## Tokens -/

/-- Where a name is defined as one value only, it stands for a value exactly when it is defined as
that. -/
theorem lookup_eq_some_iff_mem {entries : List (String × String)} {name value : String}
    (h : ∀ v v', (name, v) ∈ entries → (name, v') ∈ entries → v = v') :
    entries.lookup name = some value ↔ (name, value) ∈ entries := by
  refine ⟨Dict.mem_of_lookup_eq_some, fun hvalue => ?_⟩
  cases hv : entries.lookup name with
  | none =>
      have hne := List.lookup_eq_none_iff.1 hv (name, value) hvalue
      simp at hne
  | some v => rw [h v value (Dict.mem_of_lookup_eq_some hv) hvalue]

/-- A length that is not on the fixed scale is defined by its expansions. -/
theorem Spacing.definition?_eq_some_iff {px : Int} {name value : String} :
    definition? px = some (name, value) ↔
      builtin? px = none ∧ name = expansion px 2 ∧ value = expansion px 4 ++ "rem" := by
  unfold definition? derived rem
  cases builtin? px <;> simp [eq_comm]

/-- A color that the palette lacks is defined under its key. -/
theorem Palette.definition?_eq_some_iff {text name value : String} :
    definition? text = some (name, value) ↔
      builtin? (normal text) = none ∧ name = key (normal text) ∧ value = normal text := by
  unfold definition?
  cases builtin? (normal text) <;> simp [eq_comm]

/-- A template token tells the written size. -/
theorem GridTemplate.declaration_eq_of_token_eq {a b : Double} (h : token a = token b) :
    declaration a = declaration b := by
  have hcancel {s t : String} (hst : "auto-" ++ s ++ "px" = "auto-" ++ t ++ "px") : s = t := by
    have hlist := congrArg String.toList hst
    rw [← String.toList_inj]
    simpa [String.toList_append] using hlist
  have htext : a.toText = b.toText := hcancel h
  unfold declaration
  rw [htext]

/-- The lengths that a document brings in. -/
theorem Document.mem_spacing_definitions_requests {d : Document} {registry : Registry}
    {name value : String} :
    (name, value) ∈ TokenFamily.spacing.definitions (d.requests registry) ↔
      ∃ px, d.HasLength px ∧ Spacing.builtin? px = none ∧ name = Spacing.expansion px 2 ∧
        value = Spacing.expansion px 4 ++ "rem" := by
  rw [TokenFamily.mem_definitions]
  constructor
  · rintro ⟨q, hq, hfamily, hdefinition⟩
    obtain ⟨px, rfl⟩ := TokenRequest.family_eq_spacing_iff.1 hfamily
    exact ⟨px, spacing_mem_steps.1 (Walk.mem_requestsIn.1 hq),
      Spacing.definition?_eq_some_iff.1 hdefinition⟩
  · rintro ⟨px, hpx, hdefinition⟩
    exact ⟨.spacing px, Walk.mem_requestsIn.2 (spacing_mem_steps.2 hpx), rfl,
      Spacing.definition?_eq_some_iff.2 hdefinition⟩

/-- The templates that a document brings in along an axis. -/
theorem Document.mem_cell_definitions_requests {d : Document} {registry : Registry} {axis : Axis}
    {name value : String} :
    (name, value) ∈ axis.family.definitions (d.requests registry) ↔
      ∃ size, d.HasCell axis size ∧ name = GridTemplate.token size ∧
        value = GridTemplate.declaration size := by
  rw [TokenFamily.mem_definitions]
  constructor
  · rintro ⟨q, hq, hfamily, hdefinition⟩
    obtain ⟨size, rfl⟩ := TokenRequest.family_eq_axis_family_iff.1 hfamily
    refine ⟨size, cell_mem_steps.1 (Walk.mem_requestsIn.1 hq), ?_⟩
    simpa [TokenRequest.definition?, eq_comm] using hdefinition
  · rintro ⟨size, hsize, rfl, rfl⟩
    exact ⟨.cell axis size, Walk.mem_requestsIn.2 (cell_mem_steps.2 hsize), rfl, rfl⟩

/-- **The footprint of an export.**  A fresh export that succeeds defines the footprint of its
document. -/
theorem Document.isFootprint_of_exportFresh_eq_ok {d : Document} {settings : Settings}
    {registry : Registry} {a : Artifact} (h : d.exportFresh settings registry = .ok a) :
    d.IsFootprint a.tokens := by
  obtain ⟨pages, hpages, rfl⟩ := exportFresh_eq_ok_iff.1 h
  rw [(d.follows_exportPages registry settings.pageTitle).requests_of_ok hpages]
  show d.IsFootprint (Tokens.registerAll {} (d.requests registry))
  refine ⟨fun name value => ?_, fun axis name value => ?_, fun key => ?_⟩
  · rw [show (Tokens.registerAll {} (d.requests registry)).spacing.get? name = _ from
        Tokens.get?_registerAll_empty (d.requests registry) .spacing name, lookup_eq_some_iff_mem,
      mem_spacing_definitions_requests]
    -- one name has one value, since it tells the length
    intro v v' hv hv'
    obtain ⟨px, -, -, hname, rfl⟩ := mem_spacing_definitions_requests.1 hv
    obtain ⟨px', -, -, hname', rfl⟩ := mem_spacing_definitions_requests.1 hv'
    rw [Spacing.expansion_injective 2 (hname.symm.trans hname')]
  · rw [Tokens.get?_registerAll_empty, lookup_eq_some_iff_mem, mem_cell_definitions_requests]
    · rfl
    -- the name need not tell the size, but it tells how the size is written
    intro v v' hv hv'
    obtain ⟨size, -, hname, rfl⟩ := mem_cell_definitions_requests.1 hv
    obtain ⟨size', -, hname', rfl⟩ := mem_cell_definitions_requests.1 hv'
    exact GridTemplate.declaration_eq_of_token_eq (hname.symm.trans hname')
  · rw [show (Tokens.registerAll {} (d.requests registry)).colors.get? key = _ from
        Tokens.get?_registerAll_empty (d.requests registry) .colors key, colors_definitions_requests,
      Palette.lookup_filterMap_definition?, List.map_map]
    rfl

/-- The sample is exported, and defines its footprint. -/
theorem Document.isFootprint_sample :
    ∃ a, sample.exportFresh {} .launch = .ok a ∧ sample.IsFootprint a.tokens := by
  obtain ⟨a, ha⟩ := exists_exportFresh_sample
  exact ⟨a, ha, isFootprint_of_exportFresh_eq_ok ha⟩

end CanvasExport
