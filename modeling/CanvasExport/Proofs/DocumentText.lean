import CanvasExport.Document.Json
import CanvasExport.Proofs.Arrangement
import CanvasExport.Proofs.Numeral
import CanvasExport.Proofs.Pages
/-!
# The text of a document

A document is read back from its text when its computed numbers are finite and its nodes are nested
at most `Node.deepestReadable` deep, and otherwise its text cannot be read at all
(`Document.parse_render_iff`).  A number that is not finite is written as `null`, which is no style
value.  Each node takes two of the containers that may be open at once, and opens one more for its
markers, so an induction on the tree with the number of containers left finds the nodes that still
fit.  They are read from all their trees, however the members are arranged
(`Node.read_of_arranged`); what is written is one of these (`Node.arranged_toJson`).
-/

namespace CanvasExport

open Json

/-! ## Style values -/

namespace StyleValue

/-- The value is no number but a finite one. -/
def IsFinite (v : StyleValue) : Prop := ∀ x, v = .number x → x.isFinite = true

/-- A number is written as its numeral, if it has one. -/
theorem toJson_number (x : Double) :
    (number x).toJson = ((x.numeral? .double).map .number).getD .null := by
  rw [toJson, ofBinary]
  cases x.numeral? .double <;> rfl

theorem isWritable_toJson (v : StyleValue) : IsWritable v.toJson := by
  cases v with
  | text s => exact .string s
  | number x =>
      rw [toJson_number]
      cases hliteral : x.numeral? .double with
      | none => exact .null
      | some literal => exact .number (Binary.isNumeral_of_numeral? Format.spans_double hliteral)

/-- A text or a finite number is read back. -/
theorem read_toJson {v : StyleValue} (hv : v.IsFinite) (depth : Nat) :
    read depth v.toJson.tree = .ok v := by
  cases v with
  | text s =>
      show read depth (.string (.ofString s)) = _
      rw [read, Tree.check, Quoted.text_ofString]
      rfl
  | number x =>
      have hsome : (x.numeral? .double).isSome = true := by
        rw [Binary.isSome_numeral?, hv x rfl]
      obtain ⟨literal, hliteral⟩ := Option.isSome_iff_exists.1 hsome
      have hself : (Numeric.real x).toBinary .double = x := Binary.convert_self Format.spans_double x
      rw [toJson_number, hliteral]
      show read depth (.number literal) = _
      rw [read, Tree.check, Binary.ofLiteral_of_numeral? hliteral, map_ok, ok_bind, ok_bind, hself]
      rfl

/-- What is read is a text or a finite number. -/
theorem isFinite_of_read {v w : StyleValue} {depth : Nat}
    (h : read depth v.toJson.tree = .ok w) : v.IsFinite := by
  rintro x rfl
  cases hliteral : x.numeral? .double with
  | some literal => rw [← Binary.isSome_numeral? .double, hliteral, Option.isSome_some]
  | none =>
      rw [toJson_number, hliteral] at h
      cases depth <;> cases h

end StyleValue

/-! ## Parameters -/

/-- A data type is listed under its name. -/
theorem DataType.lookup_name (t : DataType) : variants.lookup t.name = some t := by
  cases t <;> rfl

namespace Parameter

theorem isUnordered (depth : Nat) : (shape depth).IsUnordered where
  names := by simp [shape, Field.of]
  commute := by simp [shape, Field.commute_of]

/-- The members of a parameter, both of which have to be given. -/
def own (p : Parameter) : List OwnMember :=
  [⟨"name", (Json.string p.name).tree, False⟩,
   ⟨"data_type", (Json.string p.dataType.name).tree, False⟩]

/-- The trees of a parameter: its members may be arranged in any way. -/
inductive Arranged (p : Parameter) : Tree → Prop
  | object {members : List (Quoted × Tree)} (h : IsArrangement p.own members) :
      Arranged p (.object members .closed)

theorem isWritable_toJson (p : Parameter) : IsWritable p.toJson :=
  .object_cons (.string _) <| .object_cons (.string _) .object_nil

theorem arranged_toJson (p : Parameter) : p.Arranged p.toJson.tree :=
  .object (Keeps.kept _ <| .kept _ .done).isArrangement

theorem rebuilds (depth : Nat) (p : Parameter) :
    Rebuilds (shape depth).fields p.own (shape depth).start p :=
  .required (readText_string p.name) <|
    .required (readVariant_name DataType.lookup_name depth p.dataType) <| .done p

theorem read_of_arranged {depth : Nat} (hdepth : 0 < depth) {p : Parameter} {t : Tree}
    (h : p.Arranged t) : read depth t = .ok p := by
  cases h with
  | object h => exact Shape.read_arrangement (isUnordered _) hdepth (p.rebuilds _) h

end Parameter

/-! ## Descriptors -/

namespace Descriptor

theorem isUnordered (depth : Nat) : (shape depth).IsUnordered where
  names := by simp [shape, Field.of]
  commute := by simp [shape, Field.commute_of]

/-- The members of a descriptor, with these trees for its parameters. -/
def own (d : Descriptor) (parameters : List Tree) : List OwnMember :=
  [⟨"tag_name", (Json.string d.tag).tree, False⟩,
   ⟨"parameters", .array parameters .closed, d.parameters = []⟩]

/-- The trees of a descriptor: its members, and those of its parameters, may be arranged in any
way. -/
inductive Arranged (d : Descriptor) : Tree → Prop
  | object {parameters : List Tree} {members : List (Quoted × Tree)}
      (hparameters : List.Forall₂ Parameter.Arranged d.parameters parameters)
      (h : IsArrangement (d.own parameters) members) : Arranged d (.object members .closed)

theorem isWritable_toJson (d : Descriptor) : IsWritable d.toJson :=
  .object_cons (.string _) <| .object_cons (.array_map fun p _ => p.isWritable_toJson) .object_nil

theorem arranged_toJson (d : Descriptor) : d.Arranged d.toJson.tree := by
  have hparameters : List.Forall₂ Parameter.Arranged d.parameters
      (d.parameters.map fun p => p.toJson.tree) :=
    List.forall₂_map_right_iff.2 (List.forall₂_same.2 fun p _ => p.arranged_toJson)
  rw [toJson, tree_object, List.map_cons, List.map_cons, tree_array, List.map_map]
  exact .object hparameters (Keeps.kept _ <| .kept _ .done).isArrangement

theorem rebuilds {depth : Nat} {d : Descriptor} {parameters : List Tree}
    (h : readList depth (Parameter.read (depth - 1)) (.array parameters .closed) =
      .ok d.parameters) : Rebuilds (shape depth).fields (d.own parameters) (shape depth).start d :=
  .required (readText_string d.tag) <| .defaulted h rfl <| .done d

theorem read_of_arranged {depth : Nat} (hdepth : 3 ≤ depth) {d : Descriptor} {t : Tree}
    (h : d.Arranged t) : read depth t = .ok d := by
  obtain ⟨depth, rfl⟩ := Nat.exists_eq_add_of_le' hdepth
  cases h with
  | object hparameters h =>
      have hlist : readList (depth + 2) (Parameter.read (depth + 1)) (.array _ .closed) =
          .ok d.parameters :=
        readList_of_forall₂ (Nat.succ_pos _) <|
          hparameters.imp fun p t ht => p.read_of_arranged (Nat.succ_pos depth) ht
      exact Shape.read_arrangement (isUnordered _) (Nat.succ_pos _) (rebuilds hlist) h

end Descriptor

/-! ## Nodes -/

/-- A kind is listed under its name. -/
theorem NodeKind.lookup_name (k : NodeKind) : variants.lookup k.name = some k := by
  cases k <;> rfl

namespace Node

/-- The members of a node behind its tag. -/
def membersBehindTag (n : Node) : List (String × Json) :=
  [("markers", .ofTexts n.markers), ("attributes", .ofTextDict n.attributes),
   ("computed", .ofDict StyleValue.toJson n.computed),
   ("inline_style", .ofTextDict n.inlineStyle), ("children", .array (n.children.map toJson))]

/-- The members of a node; an absent tag is not written. -/
def members (n : Node) : List (String × Json) :=
  [("id", .string n.id), ("kind", .string n.kind.name)] ++
    (n.tag.toList.map fun tag => ("tag", .string tag)) ++ n.membersBehindTag

theorem toJsonList_eq_map (ns : List Node) : toJsonList ns = ns.map toJson := by
  induction ns with
  | nil => rfl
  | cons n ns ih => rw [toJsonList, ih, List.map_cons]

theorem toJson_eq (n : Node) : n.toJson = .object n.members := by
  obtain ⟨id, kind, tag, markers, attributes, computed, inlineStyle, children⟩ := n
  cases tag <;> simp only [toJson, toJsonList_eq_map] <;> rfl

theorem isWritable_toJson (n : Node) : IsWritable n.toJson := by
  induction n using children_induction with
  | h n ih =>
      have hbehind : IsWritable (.object n.membersBehindTag) :=
        .object_cons (.ofTexts _) <| .object_cons (.ofTextDict _) <|
          .object_cons (.ofDict fun e _ => e.2.isWritable_toJson) <|
          .object_cons (.ofTextDict _) <| .object_cons (.array_map ih) .object_nil
      rw [toJson_eq, members]
      cases n.tag with
      | none => exact .object_cons (.string _) <| .object_cons (.string _) hbehind
      | some tag =>
          exact .object_cons (.string _) <| .object_cons (.string _) <|
            .object_cons (.string _) hbehind

theorem isUnordered (depth : Nat) (child : Tree → Result Node) :
    (shape depth child).IsUnordered where
  names := by simp [shape, Field.of]
  commute := by simp [shape, Field.commute_of]

/-- The numbers computed for the node are finite. -/
def HasFiniteNumbers (n : Node) : Prop :=
  ∀ property x, n.computed? property = some (.number x) → x.isFinite = true

theorem hasFiniteNumbers_iff (n : Node) :
    n.HasFiniteNumbers ↔ ∀ e ∈ n.computed.entries, e.2.IsFinite := by
  constructor
  · rintro h ⟨property, v⟩ he x rfl
    exact h property x ((n.computed.mem_entries_iff _ _).1 he)
  · intro h property x hx
    exact h (property, .number x) ((n.computed.mem_entries_iff _ _).2 hx) x rfl

/-! ## One node -/

/-- The members of a node, with these values for its children; an absent tag is `null`. -/
def own (n : Node) (children : List Tree) : List OwnMember :=
  [⟨"id", (Json.string n.id).tree, n.id = ""⟩,
   ⟨"kind", (Json.string n.kind.name).tree, False⟩,
   ⟨"tag", (Json.ofOption n.tag).tree, n.tag = none⟩,
   ⟨"markers", (Json.ofTexts n.markers).tree, n.markers = []⟩,
   ⟨"attributes", (Json.ofTextDict n.attributes).tree, n.attributes = .empty⟩,
   ⟨"computed", (Json.ofDict StyleValue.toJson n.computed).tree, n.computed = .empty⟩,
   ⟨"inline_style", (Json.ofTextDict n.inlineStyle).tree, n.inlineStyle = .empty⟩,
   ⟨"children", .array children .closed, n.children = []⟩]

/-- The trees of a node: its members, and those of the nodes below it, may be arranged in any way. -/
inductive Arranged : Node → Tree → Prop
  | object {n : Node} {children : List Tree} {members : List (Quoted × Tree)}
      (hchildren : List.Forall₂ Arranged n.children children)
      (h : IsArrangement (n.own children) members) : Arranged n (.object members .closed)

/-- The fields of a node are read where its children are, its numbers are finite, and a container can
be opened inside of it. -/
theorem rebuilds {depth : Nat} (hdepth : 0 < depth) {child : Tree → Result Node} {n : Node}
    (hfinite : n.HasFiniteNumbers) {children : List Tree}
    (hchildren : readList depth child (.array children .closed) = .ok n.children) :
    Rebuilds (shape depth child).fields (n.own children) (shape depth child).start n := by
  have hcomputed : readDict depth (StyleValue.read (depth - 1))
      (Json.ofDict StyleValue.toJson n.computed).tree = .ok n.computed :=
    readDict_ofDict hdepth fun e he =>
      StyleValue.read_toJson ((hasFiniteNumbers_iff n).1 hfinite e he) _
  obtain ⟨id, kind, tag, markers, attributes, computed, inlineStyle, kids⟩ := n
  exact .defaulted (readText_string id) rfl <|
    .required (readVariant_name NodeKind.lookup_name depth kind) <|
    .defaulted (readOption_ofOption tag) rfl <|
    .defaulted (readList_ofTexts hdepth markers) rfl <|
    .defaulted (readDict_ofTextDict hdepth attributes) rfl <| .defaulted hcomputed rfl <|
    .defaulted (readDict_ofTextDict hdepth inlineStyle) rfl <| .defaulted hchildren rfl <| .done _

/-- What is written of a node are its members, but for an absent tag. -/
theorem keeps_members (n : Node) : Keeps (n.own (n.children.map fun c => c.toJson.tree))
    (n.members.map fun m => (m.1, m.2.tree)) := by
  have hchildren : (Json.array (n.children.map toJson)).tree =
      .array (n.children.map fun c => c.toJson.tree) .closed := by
    rw [tree_array, List.map_map]
    rfl
  have hbehind : Keeps ((n.own (n.children.map fun c => c.toJson.tree)).drop 3)
      (n.membersBehindTag.map fun m => (m.1, m.2.tree)) := by
    simp only [membersBehindTag, List.map_cons, hchildren]
    exact .kept _ <| .kept _ <| .kept _ <| .kept _ <| .kept _ .done
  obtain ⟨id, kind, tag, markers, attributes, computed, inlineStyle, children⟩ := n
  cases tag with
  | none => exact .kept _ <| .kept _ <| .omitted rfl hbehind
  | some tag => exact .kept _ <| .kept _ <| .kept _ hbehind

theorem arranged_toJson (n : Node) : n.Arranged n.toJson.tree := by
  induction n using children_induction with
  | h n ih =>
      have hchildren : List.Forall₂ Arranged n.children (n.children.map fun c => c.toJson.tree) :=
        List.forall₂_map_right_iff.2 (List.forall₂_same.2 ih)
      have harranged := Arranged.object hchildren n.keeps_members.isArrangement
      rw [List.map_map] at harranged
      rw [toJson_eq, tree_object]
      exact harranged

/-- Where a node is read, its children are, its numbers are finite, and a container could be opened
inside of it. -/
theorem of_shape_read_toJson {limit depth : Nat} {child : Tree → Result Node} {n r : Node}
    (h : (shape depth child).read limit n.toJson.tree = .ok r) :
    0 < depth ∧ n.HasFiniteNumbers ∧ ∀ c ∈ n.children, ∃ r, child c.toJson.tree = .ok r := by
  rw [toJson_eq] at h
  have hmember {name : String} {value : Json} (hmem : (name, value) ∈ n.membersBehindTag) :
      (name, value) ∈ n.members := List.mem_append_right _ hmem
  obtain ⟨-, hread⟩ := (shape depth child).exists_read_of_read (isUnordered depth child).names h
  simp only [shape, List.forall_mem_cons] at hread
  obtain ⟨-, -, -, hmarkers, -, hcomputed, -, hchildren, -⟩ := hread
  obtain ⟨_, hmarkers⟩ := hmarkers (.ofTexts n.markers)
    (hmember (by simp [membersBehindTag, Field.of]))
  obtain ⟨_, hmarkers⟩ := Field.exists_of_read hmarkers
  obtain ⟨_, hcomputed⟩ := hcomputed (.ofDict StyleValue.toJson n.computed)
    (hmember (by simp [membersBehindTag, Field.of]))
  obtain ⟨_, hcomputed⟩ := Field.exists_of_read hcomputed
  obtain ⟨_, hchildren⟩ := hchildren (.array (n.children.map toJson))
    (hmember (by simp [membersBehindTag, Field.of]))
  obtain ⟨_, hchildren⟩ := Field.exists_of_read hchildren
  refine ⟨(exists_read_of_readList hmarkers).1, (hasFiniteNumbers_iff n).2 fun e he => ?_,
    fun c hc => (exists_read_of_readList hchildren).2 _ (List.mem_map_of_mem hc)⟩
  obtain ⟨v, hv⟩ := exists_read_of_readDict hcomputed e he
  exact StyleValue.isFinite_of_read hv

/-! ## The tree of a node -/

/-- The tree of a node can be read where so many containers may be opened: the numbers in it are
finite, and its nodes are not too deep below those above. -/
def Fits (depth : Nat) (above : List Node) (n : Node) : Prop :=
  ∀ v ∈ n.visits above,
    v.2.HasFiniteNumbers ∧ 2 * v.1.length + 2 ≤ depth + 2 * above.length

/-- A tree fits where the node does and two containers less are enough for its children. -/
theorem fits_iff (depth : Nat) (above : List Node) (n : Node) :
    n.Fits depth above ↔ 2 ≤ depth ∧ n.HasFiniteNumbers ∧
      ∀ c ∈ n.children, c.Fits (depth - 2) (n :: above) := by
  unfold Fits
  rw [visits_eq, List.forall_mem_cons]
  dsimp only
  constructor
  · rintro ⟨⟨hfinite, hdepth⟩, hbelow⟩
    refine ⟨by omega, hfinite, fun c hc v hv => ?_⟩
    obtain ⟨hv', hlength⟩ := hbelow v (List.mem_flatMap.2 ⟨c, hc, hv⟩)
    refine ⟨hv', ?_⟩
    rw [List.length_cons]
    omega
  · rintro ⟨hdepth, hfinite, hbelow⟩
    refine ⟨⟨hfinite, by omega⟩, fun v hv => ?_⟩
    obtain ⟨c, hc, hv⟩ := List.mem_flatMap.1 hv
    obtain ⟨hv', hlength⟩ := hbelow c hc v hv
    rw [List.length_cons] at hlength
    exact ⟨hv', by omega⟩

/-- A node that fits is read from all of its trees. -/
theorem read_of_arranged (n : Node) :
    ∀ depth above t, n.Fits depth above → n.Arranged t → read depth t = .ok n := by
  -- for every number of containers at once, since the children have two less
  induction n using children_induction with
  | h n ih =>
      intro depth above t hfits harranged
      obtain ⟨hdepth, hfinite, hchildren⟩ := (fits_iff depth above n).1 hfits
      obtain ⟨depth, rfl⟩ := Nat.exists_eq_add_of_le' hdepth
      cases harranged with
      | object harranged h =>
          have hread : ∀ c ∈ n.children, ∀ t, c.Arranged t → read depth t = .ok c :=
            fun c hc t => ih c hc depth (n :: above) t (hchildren c hc)
          have hlist := readList_of_forall₂ (Nat.succ_pos depth) <|
            ((List.forall₂_and_left _ _).2 ⟨hread, harranged⟩).imp fun c t hc => hc.1 t hc.2
          rw [read]
          exact Shape.read_arrangement (isUnordered _ _) (Nat.succ_pos _)
            (rebuilds (Nat.succ_pos depth) hfinite hlist) h

/-- A tree that is read fits. -/
theorem fits_of_read (n : Node) :
    ∀ depth above r, read depth n.toJson.tree = .ok r → n.Fits depth above := by
  induction n using children_induction with
  | h n ih =>
      intro depth above r h
      -- the number of containers as the reader tells it apart
      match depth with
      | 0 | 1 => exact absurd (of_shape_read_toJson h).1 (Nat.lt_irrefl 0)
      | depth + 2 =>
          rw [read] at h
          obtain ⟨-, hfinite, hchildren⟩ := of_shape_read_toJson h
          refine (fits_iff _ above n).2 ⟨Nat.le_add_left 2 depth, hfinite, fun c hc => ?_⟩
          obtain ⟨r, hr⟩ := hchildren c hc
          exact ih c hc depth (n :: above) r hr

/-- So many nodes may lie in each other in a document that is read back. -/
def deepestReadable : Nat := 62

end Node

/-! ## Documents -/

namespace Document

/-- All computed numbers are finite, and the nodes are not nested too deep; a top-level node has the
depth one. -/
def IsReadable (d : Document) : Prop :=
  ∀ v ∈ d.visits, v.2.HasFiniteNumbers ∧ v.1.length + 1 ≤ Node.deepestReadable

/-- The top-level nodes are in two of the containers that may be open at once. -/
theorem isReadable_iff (d : Document) :
    d.IsReadable ↔ ∀ n ∈ d.roots, n.Fits (depthLimit - 2) [] := by
  unfold IsReadable visits
  rw [List.forall_mem_flatMap]
  refine forall₂_congr fun n _ => forall₂_congr fun v _ => and_congr_right fun _ => ?_
  rw [Node.deepestReadable, depthLimit, List.length_nil]
  omega

theorem isWritable_toJson (d : Document) : IsWritable d.toJson := by
  rw [toJson, Node.toJsonList_eq_map]
  exact .object_cons (.array_map fun n _ => n.isWritable_toJson) <|
    .object_cons (.array_map fun d _ => d.isWritable_toJson) .object_nil

/-- The text of a document is read as its tree. -/
theorem parse_render_eq (d : Document) : parse d.render = read depthLimit d.toJson.tree := by
  rw [parse, render, decode_render read d.isWritable_toJson]

theorem isUnordered (depth : Nat) : (shape depth).IsUnordered where
  names := by simp [shape, Field.of]
  commute := by simp [shape, Field.commute_of]

/-- The members of a document, with these values for its nodes and its descriptors. -/
def own (d : Document) (roots descriptors : List Tree) : List OwnMember :=
  [⟨"roots", .array roots .closed, d.roots = []⟩,
   ⟨"descriptors", .array descriptors .closed, d.descriptors = []⟩]

theorem rebuilds {depth : Nat} {d : Document} {roots descriptors : List Tree}
    (hroots : readList depth (Node.read (depth - 1)) (.array roots .closed) = .ok d.roots)
    (hdescriptors : readList depth (Descriptor.read (depth - 1)) (.array descriptors .closed) =
      .ok d.descriptors) :
    Rebuilds (shape depth).fields (d.own roots descriptors) (shape depth).start d :=
  .defaulted hroots rfl <| .defaulted hdescriptors rfl <| .done d

/-- The trees of a document: its members, and those of its nodes and descriptors, may be arranged in
any way. -/
inductive Arranged (d : Document) : Tree → Prop
  | object {roots descriptors : List Tree} {members : List (Quoted × Tree)}
      (hroots : List.Forall₂ Node.Arranged d.roots roots)
      (hdescriptors : List.Forall₂ Descriptor.Arranged d.descriptors descriptors)
      (h : IsArrangement (d.own roots descriptors) members) : Arranged d (.object members .closed)

theorem arranged_toJson (d : Document) : d.Arranged d.toJson.tree := by
  have hroots : List.Forall₂ Node.Arranged d.roots (d.roots.map fun n => n.toJson.tree) :=
    List.forall₂_map_right_iff.2 (List.forall₂_same.2 fun n _ => n.arranged_toJson)
  have hdescriptors : List.Forall₂ Descriptor.Arranged d.descriptors
      (d.descriptors.map fun d => d.toJson.tree) :=
    List.forall₂_map_right_iff.2 (List.forall₂_same.2 fun d _ => d.arranged_toJson)
  rw [toJson, Node.toJsonList_eq_map, tree_object, List.map_cons, List.map_cons, tree_array,
    tree_array, List.map_map, List.map_map]
  exact .object hroots hdescriptors (Keeps.kept _ <| .kept _ .done).isArrangement

/-- A readable document is read from all of its trees. -/
theorem read_of_arranged {d : Document} (h : d.IsReadable) {t : Tree} (ht : d.Arranged t) :
    read depthLimit t = .ok d := by
  cases ht with
  | @object roots descriptors members hroots hdescriptors harranged =>
      have hnodes : readList (depthLimit - 1) (Node.read (depthLimit - 2))
          (.array roots .closed) = .ok d.roots :=
        readList_of_forall₂ (by decide) <|
          ((List.forall₂_and_left _ _).2 ⟨d.isReadable_iff.1 h, hroots⟩).imp fun n t hn =>
            n.read_of_arranged _ [] t hn.1 hn.2
      have hlist : readList (depthLimit - 1) (Descriptor.read (depthLimit - 2))
          (.array descriptors .closed) = .ok d.descriptors :=
        readList_of_forall₂ (by decide) <|
          hdescriptors.imp fun d t ht => d.read_of_arranged (by decide) ht
      exact Shape.read_arrangement (isUnordered _) (by decide) (rebuilds hnodes hlist) harranged

/-- A readable document is read back. -/
theorem parse_render_of_isReadable {d : Document} (h : d.IsReadable) : parse d.render = .ok d := by
  rw [parse_render_eq, read_of_arranged h d.arranged_toJson]

/-- A document whose text is read at all is readable. -/
theorem isReadable_of_parse_render {d r : Document} (h : parse d.render = .ok r) :
    d.IsReadable := by
  rw [parse_render_eq, toJson, Node.toJsonList_eq_map] at h
  obtain ⟨-, hread⟩ := (shape (depthLimit - 1)).exists_read_of_read (isUnordered _).names h
  simp only [shape, List.forall_mem_cons] at hread
  obtain ⟨hroots, -, -⟩ := hread
  obtain ⟨_, hroots⟩ := hroots (.array (d.roots.map Node.toJson)) List.mem_cons_self
  obtain ⟨_, hroots⟩ := Field.exists_of_read hroots
  refine d.isReadable_iff.2 fun n hn => ?_
  obtain ⟨r, hr⟩ := (exists_read_of_readList hroots).2 _ (List.mem_map_of_mem hn)
  exact n.fits_of_read _ [] r hr

/-- **A document is read back from its text exactly when its computed numbers are finite and its nodes
are nested at most 62 deep.**  In every other case its text cannot be read. -/
theorem parse_render_iff (d : Document) :
    (parse d.render = .ok d ↔ d.IsReadable) ∧
      (¬ d.IsReadable → ∃ e, parse d.render = .error e) := by
  refine ⟨⟨isReadable_of_parse_render, parse_render_of_isReadable⟩, fun hnot => ?_⟩
  cases h : parse d.render with
  | error e => exact ⟨e, rfl⟩
  | ok r => exact absurd (isReadable_of_parse_render h) hnot

end Document

end CanvasExport
