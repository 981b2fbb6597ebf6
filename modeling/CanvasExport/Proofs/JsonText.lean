import CanvasExport.Json.Value
import CanvasExport.Proofs.JsonGrammar
/-!
# Written values as trees

A value has a tree of its own, read off without its text.  Its text writes this tree, whatever its
layout (`written_chars`), so whoever reads the text of a value reads its tree (`decode_render`).  The
only thing asked of the value is that its numbers are written as numbers (`IsWritable`).
-/

namespace CanvasExport.Json

/-! ## Trees -/

/-- A string without escapes. -/
def Quoted.ofString (s : String) : Quoted := ⟨s.toList.map .char, none⟩

mutual

/-- The tree of a value. -/
def tree : Json → Tree
  | .null => .null
  | .bool b => .bool b
  | .number literal => .number literal
  | .string s => .string (.ofString s)
  | .array items => .array (trees items) .closed
  | .object members => .object (memberTrees members) .closed

/-- The trees of the items of an array. -/
def trees : List Json → List Tree
  | [] => []
  | item :: items => tree item :: trees items

/-- The keys and the trees of the members of an object. -/
def memberTrees : List (String × Json) → List (Quoted × Tree)
  | [] => []
  | (key, value) :: members => (.ofString key, tree value) :: memberTrees members

end

theorem trees_eq_map (items : List Json) : trees items = items.map tree := by
  induction items with
  | nil => rfl
  | cons item items ih => rw [trees, ih, List.map_cons]

theorem memberTrees_eq_map (members : List (String × Json)) :
    memberTrees members = members.map fun m => (.ofString m.1, m.2.tree) := by
  induction members with
  | nil => rfl
  | cons m members ih =>
      obtain ⟨key, value⟩ := m
      rw [memberTrees, ih, List.map_cons]

@[simp] theorem tree_array (items : List Json) :
    (Json.array items).tree = .array (items.map tree) .closed := by rw [tree, trees_eq_map]

@[simp] theorem tree_object (members : List (String × Json)) :
    (Json.object members).tree =
      .object (members.map fun m => (.ofString m.1, m.2.tree)) .closed := by
  rw [tree, memberTrees_eq_map]

/-- The numbers in the value are written as numbers. -/
inductive IsWritable : Json → Prop
  | null : IsWritable .null
  | bool (b : Bool) : IsWritable (.bool b)
  | number {literal : List Char} (h : IsNumeral literal) : IsWritable (.number literal)
  | string (s : String) : IsWritable (.string s)
  | array {items : List Json} (h : ∀ v ∈ items, IsWritable v) : IsWritable (.array items)
  | object {members : List (String × Json)} (h : ∀ m ∈ members, IsWritable m.2) :
      IsWritable (.object members)

namespace IsWritable

theorem object_nil : IsWritable (.object []) := .object (List.forall_mem_nil _)

theorem object_cons {key : String} {value : Json} {members : List (String × Json)}
    (hvalue : IsWritable value) (hmembers : IsWritable (.object members)) :
    IsWritable (.object ((key, value) :: members)) := by
  cases hmembers with
  | object h => exact .object (List.forall_mem_cons.2 ⟨hvalue, h⟩)

theorem array_map {α : Type} {toJson : α → Json} {as : List α}
    (h : ∀ a ∈ as, IsWritable (toJson a)) : IsWritable (.array (as.map toJson)) :=
  .array (List.forall_mem_map.2 h)

theorem ofOption (o : Option String) : IsWritable (.ofOption o) := by
  cases o with
  | none => exact .null
  | some s => exact .string s

theorem ofTexts (texts : List String) : IsWritable (.ofTexts texts) :=
  array_map fun s _ => .string s

theorem ofDict {α : Type} {toJson : α → Json} {d : Dict α}
    (h : ∀ e ∈ d.entries, IsWritable (toJson e.2)) : IsWritable (.ofDict toJson d) :=
  .object (List.forall_mem_map.2 h)

theorem ofTextDict (d : Dict String) : IsWritable (.ofTextDict d) := ofDict fun e _ => .string e.2

end IsWritable

/-! ## Strings -/

/-- A hexadecimal digit in lower case has its value. -/
theorem hexValue?_digitChar {d : Nat} (h : d < 16) :
    Scanner.hexValue? (Nat.digitChar d) = some d := by
  have hall : ∀ d : Fin 16, Scanner.hexValue? (Nat.digitChar d) = some d.val := by decide
  exact hall ⟨d, h⟩

/-- A number of four digits below the blank stands for the control character. -/
theorem pieceOf_toNat {c : Char} (h : c.toNat < 0x20) : Scanner.pieceOf c.toNat = .char c := by
  rw [Scanner.pieceOf, if_neg (by omega), if_neg (by omega), Char.ofNat_toNat]

/-- A character of a string is written by the characters that stand for it. -/
theorem pieceText_escapeChar (c : Char) : PieceText (.char c) (escapeChar c) := by
  unfold escapeChar
  split_ifs with hquote hslash hb hf hn hr ht hcontrol
  · exact .escape (congrArg some hquote.symm)
  · exact .escape (congrArg some hslash.symm)
  · exact .escape (congrArg some hb.symm)
  · exact .escape (congrArg some hf.symm)
  · exact .escape (congrArg some hn.symm)
  · exact .escape (congrArg some hr.symm)
  · exact .escape (congrArg some ht.symm)
  · -- the code point is below 32, so its four digits begin with two zeros
    have hvalue : 16 * (16 * (16 * 0 + 0) + c.toNat / 16) + c.toNat % 16 = c.toNat := by omega
    have hhigh : c.toNat / 16 < 16 := by omega
    have hlow : c.toNat % 16 < 16 := by omega
    have hzero : Scanner.hexValue? '0' = some 0 := rfl
    have htext := PieceText.hex hzero hzero (hexValue?_digitChar hhigh) (hexValue?_digitChar hlow)
    rwa [hvalue, pieceOf_toNat hcontrol] at htext
  · exact .plain hquote hslash (Nat.not_lt.1 hcontrol)

theorem stringText_stringChars (s : String) : StringText (.ofString s) (stringChars s) := by
  refine .quoted ?_
  induction s.toList with
  | nil => exact .nil
  | cons c cs ih => exact .cons (pieceText_escapeChar c) ih

/-! ## Values -/

theorem areBlanks_lineBreak (layout : Layout) (level : Nat) :
    AreBlanks (layout.lineBreak level) := by
  intro c hc
  cases layout with
  | compact => cases hc
  | indented =>
      rcases List.mem_cons.1 hc with rfl | hc
      · rfl
      · rw [List.eq_of_mem_replicate hc]
        rfl

theorem areBlanks_space (layout : Layout) : AreBlanks layout.space := by
  cases layout <;> decide

/-- An item on its own line, with its tree. -/
def itemText (layout : Layout) (level : Nat) (item : Json) : Tree × List Char :=
  (item.tree, layout.lineBreak level ++ item.chars layout level)

/-- A member on its own line, with the characters of its key and of its value. -/
def memberText (layout : Layout) (level : Nat) (m : String × Json) : MemberText where
  key := .ofString m.1
  keyText := layout.lineBreak level ++ stringChars m.1
  value := m.2.tree
  valueText := layout.space ++ m.2.chars layout level

/-- The items behind the opening bracket stand between commas. -/
theorem separated_items (layout : Layout) (level : Nat) (item : Json) (items : List Json) :
    layout.lineBreak (level + 1) ++ item.chars layout (level + 1) ++
        itemsChars layout level items =
      separated (((item :: items).map (itemText layout (level + 1))).map Prod.snd) ++
        (layout.lineBreak level ++ [']']) := by
  induction items generalizing item with
  | nil => simp [itemsChars, itemText]
  | cons next items ih =>
      rw [itemsChars, ih next]
      simp [itemText]

/-- The members behind the opening brace stand between commas. -/
theorem separated_members (layout : Layout) (level : Nat) (key : String) (value : Json)
    (members : List (String × Json)) :
    layout.lineBreak (level + 1) ++ stringChars key ++ ':' :: layout.space ++
        value.chars layout (level + 1) ++ membersChars layout level members =
      separated ((((key, value) :: members).map (memberText layout (level + 1))).map
        MemberText.text) ++ (layout.lineBreak level ++ ['\x7d']) := by
  induction members generalizing key value with
  | nil => simp [membersChars, memberText, MemberText.text]
  | cons next members ih =>
      obtain ⟨key', value'⟩ := next
      rw [membersChars, ih key' value']
      simp [memberText, MemberText.text]

/-- Blanks in front of a value. -/
theorem Written.behind {space cs : List Char} {t : Tree} (hspace : AreBlanks space)
    (h : Written t cs) : Written t (space ++ cs) := by
  have haround := h.around hspace (List.forall_mem_nil _)
  rwa [List.append_nil] at haround

/-- Blanks in front of a key. -/
theorem KeyText.behind {space cs : List Char} {key : Quoted} (hspace : AreBlanks space)
    (h : StringText key cs) : KeyText key (space ++ cs) := by
  have haround := KeyText.around hspace h (List.forall_mem_nil _)
  rwa [List.append_nil] at haround

/-- **The text of a value writes its tree.** -/
theorem written_chars {v : Json} (hv : IsWritable v) (layout : Layout) (level : Nat) :
    Written v.tree (v.chars layout level) := by
  have hbreak := areBlanks_lineBreak layout
  induction hv generalizing level with
  | null => exact .null
  | bool b => exact .bool b
  | number h => exact .number h
  | string s => exact .string (stringText_stringChars s)
  | @array items hitems ih =>
      rw [tree_array]
      cases items with
      | nil => exact @Written.array [] [] (List.forall_mem_nil _) (List.forall_mem_nil _)
      | cons item items =>
          rw [chars, separated_items]
          have hwritten : ∀ i ∈ (item :: items).map (itemText layout (level + 1)),
              Written i.1 i.2 :=
            List.forall_mem_map.2 fun v hv => .behind (hbreak (level + 1)) (ih v hv (level + 1))
          have harray := Written.array hwritten (hbreak level)
          rwa [List.map_map] at harray
  | @object members hmembers ih =>
      rw [tree_object]
      cases members with
      | nil =>
          exact @Written.object [] [] (List.forall_mem_nil _) (List.forall_mem_nil _)
            (List.forall_mem_nil _)
      | cons m members =>
          obtain ⟨key, value⟩ := m
          have hkeys : ∀ m ∈ ((key, value) :: members).map (memberText layout (level + 1)),
              KeyText m.key m.keyText :=
            List.forall_mem_map.2 fun m _ =>
              .behind (hbreak (level + 1)) (stringText_stringChars m.1)
          have hvalues : ∀ m ∈ ((key, value) :: members).map (memberText layout (level + 1)),
              Written m.value m.valueText :=
            List.forall_mem_map.2 fun m hm =>
              .behind (areBlanks_space layout) (ih m hm (level + 1))
          have hobject := Written.object hkeys hvalues (hbreak level)
          rw [chars, separated_members]
          rwa [List.map_map] at hobject

/-! ## Reading a written value -/

/-- **Whoever reads the text of a value reads its tree.** -/
theorem decode_render {α : Type} (read : Nat → Tree → Result α) {v : Json} (hv : IsWritable v)
    (layout : Layout) : decode read (v.render layout) = read depthLimit v.tree := by
  refine decode_of_written read ?_
  rw [render, String.toList_ofList]
  exact written_chars hv layout 0

end CanvasExport.Json
