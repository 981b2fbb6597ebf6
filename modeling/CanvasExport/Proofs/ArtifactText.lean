import CanvasExport.Artifact.Json
import CanvasExport.Proofs.Record
/-!
# The text of an artifact

An artifact is read back from its text, in either layout (`Artifact.parse_render`).  Each part of it
is read back from its tree as long as enough containers may still be opened: three for a component,
five for a layout, seven for a page and nine for the artifact, of the `depthLimit` there are.
-/

namespace CanvasExport

open Json

/-! ## Properties -/

namespace Props

/-- A new name is put at the end. -/
theorem put_eq_append {name : String} {value : Option String}
    {entries : List (String × Option String)} (h : name ∉ entries.map Prod.fst) :
    put name value entries = entries ++ [(name, value)] := by
  induction entries with
  | nil => rfl
  | cons e rest ih =>
      obtain ⟨n, v⟩ := e
      obtain ⟨hne, hrest⟩ := not_or.1 (mt List.mem_cons.2 h)
      rw [put, if_neg (Ne.symm hne), ih hrest]
      rfl

/-- The properties of their own entries. -/
theorem ofList_entries (p : Props) : ofList p.entries = p := by
  apply ext
  refine Dict.entries_foldl_eq_append (fun before e => e.1 ∉ before.map Prod.fst)
    (fun p e h => put_eq_append h) ?_ rfl
  intro before e after hsplit hmem
  have hdistinct := p.distinct
  rw [hsplit, List.map_append, List.nodup_append] at hdistinct
  exact hdistinct.2.2 _ hmem _ List.mem_cons_self rfl

theorem isWritable_toJson (p : Props) : IsWritable p.toJson :=
  .object (List.forall_mem_map.2 fun e _ => .ofOption e.2)

theorem read_toJson {depth : Nat} (hdepth : 0 < depth) (p : Props) :
    read depth p.toJson.tree = .ok p := by
  rw [read, toJson, readMembers_object _ hdepth fun e _ => readOption_ofOption e.2, map_ok,
    ofList_entries]

end Props

/-! ## Components -/

theorem ComponentData.isWritable_toJson (d : ComponentData) : IsWritable d.toJson :=
  .object_cons d.props.isWritable_toJson <| .object_cons (.ofTexts _) <|
    .object_cons (.ofTextDict _) <| .object_cons (.ofOption _) .object_nil

theorem ComponentData.read_toJson {depth : Nat} (hdepth : 0 < depth) (d : ComponentData) :
    (shape depth).read (depth + 1) d.toJson.tree = .ok d := by
  refine (shape depth).read_object (Nat.succ_pos depth) (by simp [shape, Field.of]) ?_
  exact .read (Field.read_of (d.props.read_toJson hdepth)) <|
    .read (Field.read_of (readList_ofTexts hdepth d.classes)) <|
    .read (Field.read_of (readDict_ofTextDict hdepth d.attributes)) <|
    .read (Field.read_of (readOption_ofOption d.innerText)) <| .done d

theorem Component.isWritable_toJson (c : Component) : IsWritable c.toJson :=
  .object_cons (.string _) <| .object_cons (.string _) <|
    .object_cons c.data.isWritable_toJson .object_nil

theorem Component.read_toJson {depth : Nat} (hdepth : 3 ≤ depth) (c : Component) :
    read depth c.toJson.tree = .ok c := by
  obtain ⟨depth, rfl⟩ := Nat.exists_eq_add_of_le' hdepth
  refine (shape (depth + 2)).read_object (Nat.succ_pos _) (by simp [shape, Field.of]) ?_
  exact .read (Field.read_of (readText_string c.name)) <|
    .read (Field.read_of (readText_string c.id)) <|
    .read (Field.read_of (c.data.read_toJson (Nat.succ_pos depth))) <| .done c

/-! ## Layouts and pages -/

/-- A kind is listed under its name. -/
theorem LayoutKind.lookup_name (k : LayoutKind) : variants.lookup k.name = some k := by
  cases k <;> rfl

theorem Layout.isWritable_toJson (l : Layout) : IsWritable l.toJson :=
  .object_cons (.string _) <| .object_cons (.ofTexts _) <|
    .object_cons (.array_map fun c _ => c.isWritable_toJson) .object_nil

theorem Layout.read_toJson {depth : Nat} (hdepth : 5 ≤ depth) (l : Layout) :
    read depth l.toJson.tree = .ok l := by
  obtain ⟨depth, rfl⟩ := Nat.exists_eq_add_of_le' hdepth
  refine (shape (depth + 4)).read_object (Nat.succ_pos _) (by simp [shape, Field.of]) ?_
  exact .read (Field.read_of (readVariant_name LayoutKind.lookup_name _ l.kind)) <|
    .read (Field.read_of (readList_ofTexts (Nat.succ_pos _) l.classes)) <|
    .read (Field.read_of (readList_array (Nat.succ_pos _) fun c _ =>
      c.read_toJson (Nat.le_add_left 3 depth))) <| .done l

theorem Page.isWritable_toJson (p : Page) : IsWritable p.toJson :=
  .object_cons (.string _) <| .object_cons (.ofTexts _) <|
    .object_cons (.array_map fun l _ => l.isWritable_toJson) .object_nil

theorem Page.read_toJson {depth : Nat} (hdepth : 7 ≤ depth) (p : Page) :
    read depth p.toJson.tree = .ok p := by
  obtain ⟨depth, rfl⟩ := Nat.exists_eq_add_of_le' hdepth
  refine (shape (depth + 6)).read_object (Nat.succ_pos _) (by simp [shape, Field.of]) ?_
  exact .read (Field.read_of (readText_string p.title)) <|
    .read (Field.read_of (readList_ofTexts (Nat.succ_pos _) p.classes)) <|
    .read (Field.read_of (readList_array (Nat.succ_pos _) fun l _ =>
      l.read_toJson (Nat.le_add_left 5 depth))) <| .done p

/-! ## Custom tokens -/

theorem Tokens.isWritable_toJson (t : Tokens) : IsWritable t.toJson :=
  .object_cons (.object_cons (.object_cons (.ofTextDict _) <| .object_cons (.ofTextDict _) <|
    .object_cons (.ofTextDict _) <| .object_cons (.ofTextDict _) .object_nil) .object_nil)
    .object_nil

theorem Tokens.read_toJson {depth : Nat} (hdepth : 4 ≤ depth) (t : Tokens) :
    read depth t.toJson.tree = .ok t := by
  obtain ⟨depth, rfl⟩ := Nat.exists_eq_add_of_le' hdepth
  have hpos : 0 < depth + 1 := Nat.succ_pos depth
  have hextension : (extensionShape (depth + 1)).read (depth + 2) (Json.object
      [("spacing", .ofTextDict t.spacing), ("colors", .ofTextDict t.colors),
       ("gridTemplateColumns", .ofTextDict t.columns),
       ("gridTemplateRows", .ofTextDict t.rows)]).tree = .ok t := by
    refine (extensionShape (depth + 1)).read_object (Nat.succ_pos _)
      (by simp [extensionShape, Field.of]) ?_
    exact .read (Field.read_of (readDict_ofTextDict hpos t.spacing)) <|
      .read (Field.read_of (readDict_ofTextDict hpos t.colors)) <|
      .read (Field.read_of (readDict_ofTextDict hpos t.columns)) <|
      .read (Field.read_of (readDict_ofTextDict hpos t.rows)) <| .done t
  have htheme : (themeShape (depth + 2)).read (depth + 3)
      (Json.object [("extend", _)]).tree = .ok t :=
    (themeShape (depth + 2)).read_object (Nat.succ_pos _) (by simp [themeShape, Field.of])
      (.read (Field.read_of hextension) (.done t))
  exact (shape (depth + 3)).read_object (Nat.succ_pos _) (by simp [shape, Field.of])
    (.read (Field.read_of htheme) (.done t))

/-! ## Artifacts -/

namespace Artifact

theorem isWritable_toJson (a : Artifact) : IsWritable a.toJson :=
  .object_cons (.string _) <| .object_cons (.string _) <|
    .object_cons (.array_map fun p _ => p.isWritable_toJson) <|
    .object_cons a.tokens.isWritable_toJson .object_nil

theorem read_toJson {depth : Nat} (hdepth : 9 ≤ depth) (a : Artifact) :
    read depth a.toJson.tree = .ok a := by
  obtain ⟨depth, rfl⟩ := Nat.exists_eq_add_of_le' hdepth
  refine (shape (depth + 8)).read_object (Nat.succ_pos _) (by simp [shape, Field.of]) ?_
  exact .read (Field.read_of (readText_string a.framework)) <|
    .read (Field.read_of (readText_string a.componentsLibrary)) <|
    .read (Field.read_of (readList_array (Nat.succ_pos _) fun p _ =>
      p.read_toJson (Nat.le_add_left 7 depth))) <|
    .read (Field.read_of (a.tokens.read_toJson (by omega))) <| .done a

/-- **An artifact is read back from its text.**  This holds for the compact and for the indented text,
whatever texts the artifact holds. -/
theorem parse_render (layout : Json.Layout) (a : Artifact) : parse (a.render layout) = .ok a := by
  rw [parse, render, decode_render read a.isWritable_toJson layout]
  exact a.read_toJson (by decide)

end Artifact

end CanvasExport
