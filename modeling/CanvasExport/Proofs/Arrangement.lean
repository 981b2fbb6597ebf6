import CanvasExport.Proofs.Record
import Mathlib.Data.List.Pairwise
/-!
# Records whose members are arranged anew

An object may name the fields of a record in any order, leave out those that hold their default, and
hold other keys besides (`IsArrangement`).  The reader takes one member after the other: a foreign
member changes nothing, and of two members in a row either may come first (`Shape.Takes.swap`).  So
all arrangements are read as the same record (`Shape.read_arrangement`).
-/

namespace CanvasExport.Json

/-! ## Arrangements -/

/-- A member that an object has of its own: the name of a field and its value, and whether this is
the value that the field has where the member is left out. -/
structure OwnMember where
  name : String
  value : Tree
  isDefault : Prop

/-- The members that are kept of an object's own; what is left out is a default. -/
inductive Keeps : List OwnMember → List (String × Tree) → Prop
  | done : Keeps [] []
  | kept (m : OwnMember) {own : List OwnMember} {kept : List (String × Tree)}
      (tail : Keeps own kept) : Keeps (m :: own) ((m.name, m.value) :: kept)
  | omitted {m : OwnMember} {own : List OwnMember} {kept : List (String × Tree)}
      (hdefault : m.isDefault) (tail : Keeps own kept) : Keeps (m :: own) kept

/-- A member whose key is a text other than the names, with any value that can be written. -/
def IsForeign (names : List String) (m : Quoted × Tree) : Prop :=
  (∃ name, m.1.text = .ok name ∧ name ∉ names) ∧ ∃ cs, Written m.2 cs

/-- The members are those of the object's own, but for some defaults, and foreign ones, in any
order. -/
def IsArrangement (own : List OwnMember) (members : List (Quoted × Tree)) : Prop :=
  ∃ kept foreign, Keeps own kept ∧ (∀ m ∈ foreign, IsForeign (own.map OwnMember.name) m) ∧
    members.Perm (kept.map (fun m => (.ofString m.1, m.2)) ++ foreign)

/-- The members that are kept, in their order. -/
theorem Keeps.isArrangement {own : List OwnMember} {kept : List (String × Tree)}
    (h : Keeps own kept) : IsArrangement own (kept.map fun m => (.ofString m.1, m.2)) :=
  ⟨kept, [], h, List.forall_mem_nil _, by rw [List.append_nil]⟩

/-- One more foreign member. -/
theorem IsArrangement.cons {own : List OwnMember} {members : List (Quoted × Tree)}
    (h : IsArrangement own members) {m : Quoted × Tree}
    (hm : IsForeign (own.map OwnMember.name) m) : IsArrangement own (m :: members) := by
  obtain ⟨kept, foreign, hkept, hforeign, hperm⟩ := h
  exact ⟨kept, m :: foreign, hkept, List.forall_mem_cons.2 ⟨hm, hforeign⟩,
    (hperm.cons m).trans List.perm_middle.symm⟩

/-- Another order of the members. -/
theorem IsArrangement.perm {own : List OwnMember} {members members' : List (Quoted × Tree)}
    (h : IsArrangement own members) (hperm : members'.Perm members) : IsArrangement own members' := by
  obtain ⟨kept, foreign, hkept, hforeign, hmembers⟩ := h
  exact ⟨kept, foreign, hkept, hforeign, hperm.trans hmembers⟩

variable {α : Type}

/-- The own members are those of the fields, in their order; read one after the other they make the
one record to the other, and a default makes no difference. -/
inductive Rebuilds : List (Field α) → List OwnMember → α → α → Prop
  | done (a : α) : Rebuilds [] [] a a
  | field {field : Field α} {fields : List (Field α)} {m : OwnMember} {own : List OwnMember}
      {put : α → α} {a b : α} (hname : m.name = field.name) (hread : field.read m.value = .ok put)
      (hdefault : m.isDefault → field.presence ≠ .required ∧ put a = a)
      (tail : Rebuilds fields own (put a) b) : Rebuilds (field :: fields) (m :: own) a b

namespace Rebuilds

variable {fields : List (Field α)} {own : List OwnMember} {a b : α}

section Fields

variable {β : Type} {name : String} {read : Tree → Result β} {put : β → α → α} {t : Tree}
  {value : β}

/-- A member that has to be given. -/
theorem required {presence : Presence} (hread : read t = .ok value)
    (tail : Rebuilds fields own (put value a) b) :
    Rebuilds (.of name presence read put :: fields) (⟨name, t, False⟩ :: own) a b :=
  .field rfl (Field.read_of hread) False.elim tail

/-- A member that may be left out where it has the value that the record starts with. -/
theorem defaulted {default : β} (hread : read t = .ok value) (hstart : put default a = a)
    (tail : Rebuilds fields own (put value a) b) :
    Rebuilds (.of name .defaulted read put :: fields) (⟨name, t, value = default⟩ :: own) a b := by
  refine .field rfl (Field.read_of hread) (fun (hvalue : value = default) => ⟨nofun, ?_⟩) tail
  rw [hvalue, hstart]

end Fields

theorem map_name (h : Rebuilds fields own a b) :
    own.map OwnMember.name = fields.map Field.name := by
  induction h with
  | done a => rfl
  | field hname hread hdefault tail ih => rw [List.map_cons, List.map_cons, hname, ih]

/-- The members that are kept fill the fields. -/
theorem fills (h : Rebuilds fields own a b) {kept : List (String × Tree)} (hkept : Keeps own kept) :
    Fills fields kept a b := by
  induction h generalizing kept with
  | done a =>
      cases hkept
      exact .done a
  | field hname hread hdefault tail ih =>
      cases hkept with
      | kept m hkept =>
          rw [hname]
          exact .read hread (ih hkept)
      | omitted hisDefault hkept =>
          obtain ⟨hpresence, hput⟩ := hdefault hisDefault
          have hfills := ih hkept
          rw [hput] at hfills
          exact .omitted hpresence hfills

end Rebuilds

/-! ## Fields in any order -/

/-- Whatever the two fields are read as, their values may be put into a record in either order. -/
def Field.Commute (f g : Field α) : Prop :=
  ∀ t u p q, f.read t = .ok p → g.read u = .ok q → ∀ a, p (q a) = q (p a)

instance : Std.Symm (Field.Commute (α := α)) where
  symm _ _ h t u p q hp hq a := (h u t q p hq hp a).symm

/-- Two fields commute when they put their values into different parts of the record. -/
theorem Field.commute_of {β γ : Type} {name name' : String} {presence presence' : Presence}
    {read : Tree → Result β} {read' : Tree → Result γ} {put : β → α → α} {put' : γ → α → α}
    (h : ∀ b c a, put b (put' c a) = put' c (put b a)) :
    (Field.of name presence read put).Commute (Field.of name' presence' read' put') := by
  intro t u p q hp hq a
  obtain ⟨b, -, rfl⟩ := map_eq_ok_iff.1 hp
  obtain ⟨c, -, rfl⟩ := map_eq_ok_iff.1 hq
  exact h b c a

namespace Shape

/-- The fields have different names, and their values may be put into the record in any order. -/
structure IsUnordered (shape : Shape α) : Prop where
  names : (shape.fields.map Field.name).Nodup
  commute : shape.fields.Pairwise Field.Commute

/-- Different fields commute. -/
theorem IsUnordered.commute_of_ne {shape : Shape α} (h : shape.IsUnordered) {f g : Field α}
    (hf : f ∈ shape.fields) (hg : g ∈ shape.fields) (hne : f.name ≠ g.name) : f.Commute g :=
  h.commute.forall hf hg fun e => hne (congrArg Field.name e)

variable {shape : Shape α}

/-! ## Two members -/

/-- Only which fields have been read counts, not in which order. -/
theorem readObject_congr {seen seen' : List String}
    (h : ∀ name, seen.contains name = seen'.contains name) (a : α) (stop : Stop)
    (members : List (Quoted × Tree)) :
    shape.readObject seen a stop members = shape.readObject seen' a stop members := by
  induction members generalizing seen seen' a with
  | nil => simp only [readObject, h]
  | cons m members ih =>
      obtain ⟨key, t⟩ := m
      have hput (name : String) (a : α) : shape.readObject (name :: seen) a stop members =
          shape.readObject (name :: seen') a stop members :=
        ih (fun x => by rw [List.contains_cons, List.contains_cons, h]) a
      simp only [readObject, h, ih h, hput]

/-- **Of two members in a row either may come first.** -/
theorem Takes.swap (h : shape.IsUnordered) {seen seen₁ seen₂ : List String} {a a₁ a₂ : α}
    {m m' : Quoted × Tree} (first : shape.Takes seen a m seen₁ a₁)
    (second : shape.Takes seen₁ a₁ m' seen₂ a₂) :
    ∃ seen₁' a₁' seen₂', shape.Takes seen a m' seen₁' a₁' ∧ shape.Takes seen₁' a₁' m seen₂' a₂ ∧
      ∀ name, seen₂'.contains name = seen₂.contains name := by
  cases first with
  | skipped hname hforeign hskip =>
      cases second with
      | skipped hname' hforeign' hskip' =>
          exact ⟨_, _, _, .skipped hname' hforeign' hskip', .skipped hname hforeign hskip,
            fun _ => rfl⟩
      | put hname' hfield' hnew' hread' =>
          exact ⟨_, _, _, .put hname' hfield' hnew' hread', .skipped hname hforeign hskip,
            fun _ => rfl⟩
  | @put key t field put hname hfield hnew hread =>
      cases second with
      | skipped hname' hforeign' hskip' =>
          exact ⟨_, _, _, .skipped hname' hforeign' hskip', .put hname hfield hnew hread,
            fun _ => rfl⟩
      | @put key' t' field' put' hname' hfield' hnew' hread' =>
          obtain ⟨hne, hnew'⟩ := not_or.1 (mt List.mem_cons.2 hnew')
          rw [← h.commute_of_ne hfield hfield' (Ne.symm hne) _ _ _ _ hread hread']
          refine ⟨_, _, _, .put hname' hfield' hnew' hread', .put hname hfield ?_ hread,
            fun name => ?_⟩
          · exact mt List.mem_cons.1 (not_or.2 ⟨Ne.symm hne, hnew⟩)
          · simp only [List.contains_cons]
            exact Bool.or_left_comm _ _ _

/-! ## All members -/

/-- **The order of the members does not matter.** -/
theorem readObject_perm (h : shape.IsUnordered) {stop : Stop}
    {members members' : List (Quoted × Tree)} (hperm : members.Perm members')
    {seen : List String} {a b : α}
    (hread : shape.readObject seen a stop members = .ok b) :
    shape.readObject seen a stop members' = .ok b := by
  induction hperm generalizing seen a with
  | nil => exact hread
  | cons m _ ih =>
      obtain ⟨seen', a', htakes, hread⟩ := (readObject_cons_iff h.names).1 hread
      exact (readObject_cons_iff h.names).2 ⟨seen', a', htakes, ih hread⟩
  | swap m m' members =>
      obtain ⟨seen₁, a₁, first, hread⟩ := (readObject_cons_iff h.names).1 hread
      obtain ⟨seen₂, a₂, second, hread⟩ := (readObject_cons_iff h.names).1 hread
      obtain ⟨seen₁', a₁', seen₂', first', second', hseen⟩ := first.swap h second
      rw [← readObject_congr hseen] at hread
      exact (readObject_cons_iff h.names).2 ⟨seen₁', a₁', first',
        (readObject_cons_iff h.names).2 ⟨seen₂', a₂, second', hread⟩⟩
  | trans _ _ ih ih' => exact ih' (ih hread)

/-- Foreign members are passed over. -/
theorem readObject_foreign (hnames : (shape.fields.map Field.name).Nodup)
    {foreign : List (Quoted × Tree)}
    (hforeign : ∀ m ∈ foreign, IsForeign (shape.fields.map Field.name) m)
    {seen : List String} {a b : α} {stop : Stop} {members : List (Quoted × Tree)}
    (hread : shape.readObject seen a stop members = .ok b) :
    shape.readObject seen a stop (foreign ++ members) = .ok b := by
  induction foreign with
  | nil => exact hread
  | cons m foreign ih =>
      obtain ⟨⟨⟨name, hname, hnew⟩, cs, hwritten⟩, hforeign⟩ := List.forall_mem_cons.1 hforeign
      have hskip : m.2.skip = .ok () := by rw [Tree.skip, hwritten.fault?_eq_none]
      exact (readObject_cons_iff hnames).2 ⟨seen, a, .skipped hname hnew hskip, ih hforeign⟩

/-- **Every arrangement of its own members is read as the record.** -/
theorem read_arrangement (h : shape.IsUnordered) {depth : Nat} (hdepth : 0 < depth)
    {own : List OwnMember} {a : α} (hown : Rebuilds shape.fields own shape.start a)
    {members : List (Quoted × Tree)} (hmembers : IsArrangement own members) :
    shape.read depth (.object members .closed) = .ok a := by
  obtain ⟨kept, foreign, hkept, hforeign, hperm⟩ := hmembers
  rw [hown.map_name] at hforeign
  have hread := shape.readObject_of_fills_fields h.names (hown.fills hkept)
  rw [read, if_neg hdepth.ne']
  exact readObject_perm h (List.perm_append_comm.trans hperm.symm)
    (readObject_foreign h.names hforeign hread)

end Shape

end CanvasExport.Json
