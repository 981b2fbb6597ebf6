import CanvasExport.Node
/-!
# Component descriptors and their registry

A `Descriptor` declares the parameters of the components of one tag.  A `Registry` lists descriptors
in the order of their registration, no tag twice: `register` refuses a different descriptor for a
known tag, and `merge` fills in the tags that are missing.
-/

namespace CanvasExport

/-! ## Descriptors -/

/-- The declared type of a parameter. -/
inductive DataType
  | color
  | text
  | number
  | boolean
  | layoutStyle
  deriving DecidableEq, Repr

/-- A declared parameter of a component; it is read from the attribute of the same name. -/
structure Parameter where
  name : String
  dataType : DataType
  deriving DecidableEq, Repr

/-- The parameter whose value is the text inside the component. -/
def Parameter.innerTextName : String := "innertext"

/-- Whether the parameter's value is the text inside the component. -/
def Parameter.isInnerText (p : Parameter) : Bool := p.name == innerTextName

/-- The declared parameters of a component tag, in order. -/
structure Descriptor where
  tag : String
  parameters : List Parameter := []
  deriving DecidableEq, Repr

/-! ## Registries -/

/-- The tags of a list of descriptors are pairwise distinct. -/
def DistinctTags (descriptors : List Descriptor) : Prop := (descriptors.map Descriptor.tag).Nodup

/-- There are no two descriptors in the empty list. -/
theorem distinctTags_nil : DistinctTags [] := List.Pairwise.nil

/-- Descriptors in the order of their registration, one for each tag. -/
structure Registry where
  descriptors : List Descriptor
  distinct : DistinctTags descriptors

/-- The tag has another descriptor already. -/
structure DescriptorConflict where
  tag : String
  deriving DecidableEq, Repr

/-- What is said of a conflict. -/
def DescriptorConflict.message (c : DescriptorConflict) : String :=
  "Descriptor conflict: `" ++ c.tag ++ "` is already registered with different parameters"

namespace Registry

/-- A registry is its list of descriptors. -/
@[ext] theorem ext {a b : Registry} (h : a.descriptors = b.descriptors) : a = b := by
  cases a; cases b; cases h; rfl

/-- The registry without descriptors. -/
def empty : Registry := ⟨[], distinctTags_nil⟩

instance : Inhabited Registry := ⟨empty⟩

/-- How many descriptors there are. -/
def size (r : Registry) : Nat := r.descriptors.length

/-- The descriptor of a tag. -/
def get? (r : Registry) (tag : String) : Option Descriptor :=
  r.descriptors.find? (·.tag == tag)

/-- The descriptor of a node, by its tag. -/
def descriptorOf? (r : Registry) (n : Node) : Option Descriptor := n.tag.bind r.get?

/-- A tag without descriptor is not listed. -/
theorem tag_notMem_of_get?_eq_none {r : Registry} {tag : String} (h : r.get? tag = none) :
    tag ∉ r.descriptors.map Descriptor.tag := by
  simp only [get?, List.find?_eq_none, beq_iff_eq] at h
  simpa using h

/-- The registry with one more descriptor, whose tag is new. -/
def push (r : Registry) (d : Descriptor) (h : r.get? d.tag = none) : Registry where
  descriptors := r.descriptors ++ [d]
  distinct := by
    unfold DistinctTags
    rw [List.map_append, List.nodup_append]
    refine ⟨r.distinct, by simp, ?_⟩
    rintro a ha b hb rfl
    simp only [List.map_cons, List.map_nil, List.mem_singleton] at hb
    exact tag_notMem_of_get?_eq_none h (hb ▸ ha)

/-- A known tag keeps its descriptor, and the new one stands for the one pushed. -/
theorem get?_push (r : Registry) (d : Descriptor) (h : r.get? d.tag = none) (tag : String) :
    (r.push d h).get? tag = (r.get? tag).or (if d.tag = tag then some d else none) := by
  by_cases ht : d.tag = tag <;> simp [get?, push, List.find?_append, ht]

/-- The registry with the descriptor added, unless its tag is known. -/
def addMissing (r : Registry) (d : Descriptor) : Registry :=
  match h : r.get? d.tag with
  | none => r.push d h
  | some _ => r

/-- Registers a descriptor; the same descriptor may be registered again. -/
def register (d : Descriptor) : ExceptT DescriptorConflict (StateM Registry) Unit := do
  let r ← get
  match h : r.get? d.tag with
  | none => set (r.push d h)
  | some known => if known ≠ d then throw ⟨d.tag⟩

/-- The registry with the descriptor registered, where that is not refused. -/
def register? (r : Registry) (d : Descriptor) : Except DescriptorConflict Registry :=
  match (register d).run.run r with
  | (.ok (), after) => .ok after
  | (.error e, _) => .error e

/-- A known tag keeps its descriptor, and a new one stands for the one added. -/
theorem get?_addMissing (r : Registry) (d : Descriptor) (tag : String) :
    (r.addMissing d).get? tag = (r.get? tag).or (if d.tag = tag then some d else none) := by
  unfold addMissing
  split
  · exact get?_push r d _ tag
  · rename_i known h
    by_cases ht : d.tag = tag
    · rw [← ht, h]; rfl
    · simp [ht]

/-- A known tag keeps its descriptor, and a new one stands for the first one added for it. -/
theorem get?_foldl_addMissing (ds : List Descriptor) (r : Registry) (tag : String) :
    (ds.foldl addMissing r).get? tag = (r.get? tag).or (ds.find? (·.tag == tag)) := by
  induction ds generalizing r with
  | nil => simp
  | cons d ds ih =>
      rw [List.foldl_cons, ih, get?_addMissing, Option.or_assoc]
      congr 1
      by_cases ht : d.tag = tag <;> simp [ht]

/-- The registry with the descriptors of the other one whose tags it lacks, in their order. -/
def merge (r other : Registry) : Registry := other.descriptors.foldl addMissing r

/-- A tag stands for its own descriptor, and if there is none for the other registry's. -/
theorem get?_merge (r other : Registry) (tag : String) :
    (r.merge other).get? tag = (r.get? tag).or (other.get? tag) :=
  get?_foldl_addMissing other.descriptors r tag

/-- How many descriptors a merge adds. -/
def mergeCount (r other : Registry) : Nat := (r.merge other).size - r.size

/-- The registry of a list of descriptors, registered one after the other. -/
def ofList? (descriptors : List Descriptor) : Except DescriptorConflict Registry :=
  descriptors.foldlM register? empty

/-- The default components of the editor. -/
def launchDescriptors : List Descriptor :=
  [{ tag := "launch-button",
     parameters :=
       [⟨Parameter.innerTextName, .text⟩, ⟨"variant", .text⟩, ⟨"type", .text⟩, ⟨"size", .text⟩,
        ⟨"shape", .text⟩, ⟨"disabled", .boolean⟩] },
   { tag := "launch-checkbox", parameters := [⟨"disabled", .boolean⟩, ⟨"indeterminate", .boolean⟩] },
   { tag := "launch-text",
     parameters :=
       [⟨Parameter.innerTextName, .text⟩, ⟨"type", .text⟩, ⟨"weight", .text⟩,
        ⟨"underline", .boolean⟩, ⟨"italic", .boolean⟩] },
   { tag := "launch-table" },
   { tag := "launch-pagination", parameters := [⟨"pages", .number⟩] },
   { tag := "launch-tabs" }]

/-- The registry of the editor's default components. -/
def launch : Registry := ⟨launchDescriptors, by unfold DistinctTags; decide⟩

end Registry

end CanvasExport
