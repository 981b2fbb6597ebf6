import CanvasExport.Proofs.Props
import CanvasExport.Proofs.Readings
import CanvasExport.Proofs.Representation
/-!
# The schema of exported components

Which properties an exported component has is a matter of its descriptor alone: they are the declared
parameters, each at its first place, apart from the text inside the component
(`Component.ofDescribed_hasSchema`).  They are read in one pass, which inserts the properties
(`Component.foldl_readParameter_fst`) and keeps the text inside apart
(`Component.foldl_readParameter_snd`).  Since a registry has one descriptor for a tag, all components of
one tag in an artifact have the same properties.
-/

namespace CanvasExport

/-! ## Declared properties -/

/-- The names of the declared parameters apart from the text inside the component, each at its first
place. -/
def Descriptor.propertyNames (d : Descriptor) : List String :=
  ((d.parameters.map Parameter.name).filter (· ≠ Parameter.innerTextName)).eraseDups

theorem Parameter.isInnerText_iff (p : Parameter) :
    p.isInnerText = true ↔ p.name = innerTextName := beq_iff_eq

theorem Node.filledAttribute?_eq (n : Node) (name : String) :
    n.filledAttribute? name = (n.attribute? name).filter (· ≠ "") := by
  rw [filledAttribute?]
  congr 1
  funext value
  rw [Bool.eq_iff_iff]
  simp

namespace Component

/-- A parameter apart from the text inside inserts its attribute under its name. -/
theorem readParameter_fst (n : Node) (read : Props × Option String) (p : Parameter) :
    (readParameter n read p).1 =
      if p.name = Parameter.innerTextName then read.1
      else read.1.insert p.name (n.filledAttribute? p.name) := by
  unfold readParameter
  by_cases h : p.name = Parameter.innerTextName
  · rw [if_pos h, if_pos (p.isInnerText_iff.2 h)]
  · rw [if_neg h, if_neg (mt p.isInnerText_iff.1 h)]

/-- The text inside is read by its own parameter. -/
theorem readParameter_snd (n : Node) (read : Props × Option String) (p : Parameter) :
    (readParameter n read p).2 =
      if p.name = Parameter.innerTextName then n.filledAttribute? Parameter.innerTextName
      else read.2 := by
  unfold readParameter
  by_cases h : p.name = Parameter.innerTextName
  · rw [if_pos h, if_pos (p.isInnerText_iff.2 h), h]
  · rw [if_neg h, if_neg (mt p.isInnerText_iff.1 h)]

/-- Parameters in a row insert the properties in their order. -/
theorem foldl_readParameter_fst (n : Node) (ps : List Parameter) (read : Props × Option String) :
    (ps.foldl (readParameter n) read).1 =
      ((((ps.map Parameter.name).filter (· ≠ Parameter.innerTextName)).map
        fun name => (name, n.filledAttribute? name)).foldl
          (fun props pair => props.insert pair.1 pair.2) read.1) := by
  induction ps generalizing read with
  | nil => rfl
  | cons p ps ih =>
      rw [List.foldl_cons, ih, readParameter_fst, List.map_cons]
      by_cases h : p.name = Parameter.innerTextName
      · simp [h]
      · simp [h]

/-- The text inside is read where one of them is its parameter. -/
theorem foldl_readParameter_snd (n : Node) (ps : List Parameter) (read : Props × Option String) :
    (ps.foldl (readParameter n) read).2 =
      if Parameter.innerTextName ∈ ps.map Parameter.name then
        n.filledAttribute? Parameter.innerTextName
      else read.2 := by
  induction ps generalizing read with
  | nil => rfl
  | cons p ps ih =>
      rw [List.foldl_cons, ih, readParameter_snd, List.map_cons]
      by_cases h : p.name = Parameter.innerTextName
      · simp [h]
      · simp [h, Ne.symm h]

/-- The properties are the pairs of all property names and their attributes, inserted one after the
other. -/
theorem readParameters_fst (d : Descriptor) (n : Node) :
    (readParameters d n).1 =
      .ofList (((d.parameters.map Parameter.name).filter (· ≠ Parameter.innerTextName)).map
        fun name => (name, n.filledAttribute? name)) :=
  foldl_readParameter_fst n d.parameters (.empty, none)

theorem names_readParameters (d : Descriptor) (n : Node) :
    (readParameters d n).1.names = d.propertyNames := by
  rw [readParameters_fst, Props.names_ofList, List.map_map, Descriptor.propertyNames]
  congr 1
  exact List.map_id _

theorem get?_readParameters (d : Descriptor) (n : Node) (name : String) :
    (readParameters d n).1.get? name =
      if name ∈ d.propertyNames then some ((n.attribute? name).filter (· ≠ "")) else none := by
  rw [readParameters_fst, Props.get?_ofList_map, n.filledAttribute?_eq]
  exact if_congr List.mem_eraseDups.symm rfl rfl

theorem readParameters_snd (d : Descriptor) (n : Node) :
    (readParameters d n).2 =
      if Parameter.innerTextName ∈ d.parameters.map Parameter.name then
        (n.attribute? Parameter.innerTextName).filter (· ≠ "")
      else none := by
  rw [← n.filledAttribute?_eq]
  exact foldl_readParameter_snd n d.parameters (.empty, none)

/-- Attributes that are not declared play no part. -/
theorem ofDescribed_restrict (d : Descriptor) (layout : LayoutKind) (n : Node) :
    ofDescribed d layout
        { n with attributes := n.attributes.restrict (d.parameters.map Parameter.name) } =
      ofDescribed d layout n := by
  have hattributes : ∀ p ∈ d.parameters,
      (n.attributes.restrict (d.parameters.map Parameter.name)).get? p.name =
        n.attribute? p.name :=
    fun p hp => n.attributes.get?_restrict_of_mem (List.mem_map_of_mem hp)
  rw [ofDescribed, ofDescribed, readParameters_congr hattributes]
  cases layout <;> rfl

/-- A component with a descriptor is always exported, with what is read of its parameters. -/
theorem exists_ofDescribed_eq_ok (d : Descriptor) (layout : LayoutKind) (n : Node) :
    ∃ classes, (ofDescribed d layout n).outcome =
      .ok ⟨d.tag, n.id,
        { props := (readParameters d n).1, classes, innerText := (readParameters d n).2 }⟩ := by
  cases layout <;> exact ⟨_, rfl⟩

end Component

/-! ## Components of an artifact -/

/-- The components in document order. -/
def Artifact.components (a : Artifact) : List Component :=
  a.pages.flatMap fun p => p.layouts.flatMap Layout.components

/-- Each component of an artifact comes from a node. -/
theorem Document.exists_ofNode_of_mem_components {d : Document} {settings : Settings}
    {registry : Registry} {tokens : Tokens} {a : Artifact}
    (h : (d.exportWith settings registry tokens).1 = .ok a) {c : Component}
    (hc : c ∈ a.components) :
    ∃ layout n, (Component.ofNode registry layout n).outcome = .ok c := by
  obtain ⟨pages, hpages, rfl⟩ := exportWith_fst_eq_ok_iff.1 h
  obtain ⟨p, hp, hc⟩ := List.mem_flatMap.1 hc
  obtain ⟨l, hl, hc⟩ := List.mem_flatMap.1 hc
  obtain ⟨page, -, hpage⟩ := Walk.exists_visit_of_mem_of_ok hpages hp
  rw [Page.ofNode, Walk.outcome_request_bind, Walk.outcome_request_bind] at hpage
  obtain ⟨layouts, hlayouts, rfl⟩ := Walk.outcome_bind_pure_eq_ok_iff.1 hpage
  obtain ⟨container, -, hlayout⟩ := Walk.exists_visit_of_mem_of_ok hlayouts hl
  rw [Layout.ofNode, Walk.outcome_request_bind, Walk.outcome_bind_eq_ok_iff] at hlayout
  obtain ⟨templates, -, hlayout⟩ := hlayout
  obtain ⟨components, hcomponents, rfl⟩ := Walk.outcome_bind_pure_eq_ok_iff.1 hlayout
  obtain ⟨n, -, hn⟩ := Walk.exists_visit_of_mem_of_ok hcomponents hc
  exact ⟨_, n, hn⟩

/-- The properties of a component are those that the descriptor of its name declares. -/
theorem Component.exists_names_eq_of_ok {registry : Registry} {layout : LayoutKind} {n : Node}
    {c : Component} (h : (ofNode registry layout n).outcome = .ok c) :
    ∃ d, registry.get? c.name = some d ∧ c.data.props.names = d.propertyNames := by
  unfold ofNode at h
  cases hd : registry.descriptorOf? n with
  | none => simp [hd] at h
  | some d =>
      simp only [hd] at h
      obtain ⟨classes, hdescribed⟩ := exists_ofDescribed_eq_ok d layout n
      rw [hdescribed] at h
      cases h
      obtain ⟨tag, htag, hget⟩ := Option.bind_eq_some_iff.1 hd
      rw [Registry.tag_eq_of_descriptorOf?_eq_some hd] at htag
      cases htag
      exact ⟨d, hget, names_readParameters d n⟩

/-- **The properties of a component follow its descriptor.**  A component is exported with the declared
parameters as its properties, each at its first place and apart from the text inside it, whose values
are the attributes of these names that are not empty; the text inside it is read in the same way, if
it is declared.  Attributes that are not declared play no part.  So all components of one tag in an
artifact have the same properties in the same order. -/
theorem Component.ofDescribed_hasSchema (d : Descriptor) (layout : LayoutKind) (n : Node) :
    (∃ c, (ofDescribed d layout n).outcome = .ok c ∧
      c.data.props.names = d.propertyNames ∧
      Parameter.innerTextName ∉ c.data.props.names ∧
      (∀ name, c.data.props.get? name =
        if name ∈ d.propertyNames then some ((n.attribute? name).filter (· ≠ "")) else none) ∧
      c.data.innerText =
        (if Parameter.innerTextName ∈ d.parameters.map Parameter.name then
          (n.attribute? Parameter.innerTextName).filter (· ≠ "")
        else none) ∧
      c.data.attributes = .empty) ∧
    ofDescribed d layout
        { n with attributes := n.attributes.restrict (d.parameters.map Parameter.name) } =
      ofDescribed d layout n ∧
    ∀ (document : Document) settings registry tokens a,
      (document.exportWith settings registry tokens).1 = .ok a →
        ∀ c ∈ a.components, ∀ c' ∈ a.components, c.name = c'.name →
          c.data.props.names = c'.data.props.names := by
  refine ⟨?_, ofDescribed_restrict d layout n, ?_⟩
  · obtain ⟨classes, hc⟩ := exists_ofDescribed_eq_ok d layout n
    refine ⟨_, hc, names_readParameters d n, ?_, get?_readParameters d n, readParameters_snd d n, rfl⟩
    rw [names_readParameters, Descriptor.propertyNames, List.mem_eraseDups, List.mem_filter]
    simp
  · intro document settings registry tokens a ha c hc c' hc' hname
    obtain ⟨_, n, hn⟩ := Document.exists_ofNode_of_mem_components ha hc
    obtain ⟨_, n', hn'⟩ := Document.exists_ofNode_of_mem_components ha hc'
    obtain ⟨e, he, hnames⟩ := exists_names_eq_of_ok hn
    obtain ⟨e', he', hnames'⟩ := exists_names_eq_of_ok hn'
    -- the registry has one descriptor for the tag
    rw [hname, he'] at he
    cases he
    rw [hnames, hnames']

/-- Two boxes of a page, of which each has an attribute that the other one lacks. -/
def Document.checkboxSample : Document where
  roots :=
    [(Node.page "page").withChild
      ((Node.layout "form")
        |>.withChild ((Node.component "first" "launch-checkbox").withAttribute "disabled" "true")
        |>.withChild ((Node.component "second" "launch-checkbox").withAttribute "title" "All"))]

/-- Both boxes have the two properties of a box. -/
theorem Component.ofDescribed_hasSchema_sample :
    ∃ a c c', (Document.checkboxSample.exportWith {} .launch {}).1 = .ok a ∧
      c ∈ a.components ∧ c' ∈ a.components ∧ c.id ≠ c'.id ∧ c.name = c'.name ∧
      c.data.props.names = c'.data.props.names := by
  have hrun : ((Document.checkboxSample.exportWith {} .launch {}).1.toOption.map fun a =>
      a.components.map fun c => (c.id, c.name)) =
      some [("first", "launch-checkbox"), ("second", "launch-checkbox")] := by
    decide +kernel
  cases ha : (Document.checkboxSample.exportWith {} .launch {}).1 with
  | error e =>
      rw [ha] at hrun
      cases hrun
  | ok a =>
      rw [ha] at hrun
      have hlist := Option.some.inj hrun
      obtain ⟨c, hc, hfirst⟩ := List.mem_map.1 (hlist ▸ List.mem_cons_self)
      obtain ⟨c', hc', hsecond⟩ :=
        List.mem_map.1 (hlist ▸ List.mem_cons_of_mem _ List.mem_cons_self)
      obtain ⟨hid, hname⟩ := Prod.mk.inj hfirst
      obtain ⟨hid', hname'⟩ := Prod.mk.inj hsecond
      have hsame : c.name = c'.name := hname.trans hname'.symm
      refine ⟨a, c, c', rfl, hc, hc', by rw [hid, hid']; decide, hsame, ?_⟩
      exact (ofDescribed_hasSchema { tag := "launch-checkbox" } .free (.page "page")).2.2 _ _ _ _ a
        ha c hc c' hc' hsame

end CanvasExport
