import CanvasExport.Json.Read
import CanvasExport.Proofs.Dict
import CanvasExport.Proofs.JsonText
import Mathlib.Data.List.Forall2
/-!
# Reading the trees of written values

Each reader gives back what was written: a text, a sequence, a dictionary, a variant
(`readList_array`, `readDict_ofDict`).  The reader of a record takes one member after the other
(`Shape.Takes`).  So a record is read from an object with its fields in their order, of which those
may be left out that need not be given (`Fills`, `Shape.read_object`); and where a record is read at
all, each member was read by its field (`Shape.exists_read_of_read`).
-/

namespace CanvasExport.Json

/-! ## Results -/

section Results

variable {ε α β : Type}

theorem ok_bind (a : α) (f : α → Except ε β) : ((.ok a : Except ε α) >>= f) = f a := rfl

theorem map_ok (f : α → β) (a : α) : (.ok a : Result α).map f = .ok (f a) := rfl

theorem bind_eq_ok_iff {r : Except ε α} {f : α → Except ε β} {b : β} :
    (r >>= f) = .ok b ↔ ∃ a, r = .ok a ∧ f a = .ok b := by
  cases r with
  | error e => exact ⟨nofun, nofun⟩
  | ok a => simp [ok_bind]

theorem map_eq_ok_iff {r : Result α} {f : α → β} {b : β} :
    r.map f = .ok b ↔ ∃ a, r = .ok a ∧ f a = b := by
  cases r with
  | error e => exact ⟨nofun, nofun⟩
  | ok a => simp [map_ok]

/-- Naming the cause of an error makes no result out of it. -/
theorem mapError_eq_ok_iff {ε' : Type} {r : Except ε α} {f : ε → ε'} {a : α} :
    r.mapError f = .ok a ↔ r = .ok a := by
  cases r <;> simp [Except.mapError]

/-- Reading one after the other gives what each is read as. -/
theorem mapM_eq_ok_of_forall₂ {f : β → Result α} {as : List α} {bs : List β}
    (h : List.Forall₂ (fun a b => f b = .ok a) as bs) : bs.mapM f = .ok as := by
  induction h with
  | nil => rfl
  | cons hread _ ih =>
      rw [List.mapM_cons, hread, ok_bind, ih]
      rfl

/-- Where all are read, each is. -/
theorem exists_of_mapM_eq_ok {f : β → Result α} {bs : List β} {as : List α}
    (h : bs.mapM f = .ok as) : ∀ b ∈ bs, ∃ a, f b = .ok a := by
  induction bs generalizing as with
  | nil => nofun
  | cons b bs ih =>
      rw [List.mapM_cons] at h
      obtain ⟨a, ha, h⟩ := bind_eq_ok_iff.1 h
      obtain ⟨rest, hrest, -⟩ := bind_eq_ok_iff.1 h
      intro b' hb'
      rcases List.mem_cons.1 hb' with rfl | hb'
      · exact ⟨a, ha⟩
      · exact ih hrest b' hb'

end Results

/-! ## Texts -/

/-- The characters of a string without escapes are its characters. -/
theorem charsOf_map_char (cs : List Char) : charsOf none (cs.map .char) = .ok cs := by
  induction cs with
  | nil => rfl
  | cons c cs ih => rw [List.map_cons, charsOf, ih, map_ok]

@[simp] theorem Quoted.text_ofString (s : String) : (Quoted.ofString s).text = .ok s := by
  rw [text, ofString, charsOf_map_char, map_ok, String.ofList_toList]

theorem readText_string (s : String) : readText (Json.string s).tree = .ok s :=
  Quoted.text_ofString s

theorem readOption_ofOption (o : Option String) :
    readOption readText (Json.ofOption o).tree = .ok o := by
  cases o with
  | none => rfl
  | some s =>
      show (readText (Json.string s).tree).map some = _
      rw [readText_string, map_ok]

/-- A variant is read from its name. -/
theorem readVariant_name {α : Type} {variants : List (String × α)} {name : α → String}
    (hname : ∀ a, variants.lookup (name a) = some a) (depth : Nat) (a : α) :
    readVariant variants depth (Json.string (name a)).tree = .ok a := by
  show (Quoted.ofString (name a)).text >>= variantOf variants = _
  rw [Quoted.text_ofString, ok_bind, variantOf, hname]

/-! ## Sequences and dictionaries -/

section Containers

variable {α : Type} {depth : Nat}

/-- A sequence is read where its items are and one more container may be opened. -/
theorem readList_of_forall₂ {read : Tree → Result α} {as : List α} {items : List Tree}
    (hdepth : 0 < depth) (h : List.Forall₂ (fun a t => read t = .ok a) as items) :
    readList depth read (.array items .closed) = .ok as := by
  rw [readList, if_neg hdepth.ne']
  show (items.mapM read >>= fun values => Stop.closed.finish >>= fun _ => pure values) = _
  rw [mapM_eq_ok_of_forall₂ h]
  rfl

/-- A sequence is read where one more container may be opened. -/
theorem readList_array {read : Tree → Result α} {toJson : α → Json} {as : List α}
    (hdepth : 0 < depth) (h : ∀ a ∈ as, read (toJson a).tree = .ok a) :
    readList depth read (Json.array (as.map toJson)).tree = .ok as := by
  rw [tree_array, List.map_map]
  exact readList_of_forall₂ hdepth (List.forall₂_map_right_iff.2 (List.forall₂_same.2 h))

/-- Where a sequence is read, each item is, and a container could be opened. -/
theorem exists_read_of_readList {read : Tree → Result α} {items : List Json} {as : List α}
    (h : readList depth read (Json.array items).tree = .ok as) :
    0 < depth ∧ ∀ v ∈ items, ∃ a, read v.tree = .ok a := by
  rw [tree_array, readList] at h
  split at h
  · cases h
  · rename_i hdepth
    obtain ⟨values, hvalues, -⟩ := bind_eq_ok_iff.1 h
    exact ⟨Nat.pos_of_ne_zero hdepth, fun v hv =>
      exists_of_mapM_eq_ok hvalues v.tree (List.mem_map_of_mem hv)⟩

theorem readList_ofTexts (hdepth : 0 < depth) (texts : List String) :
    readList depth readText (Json.ofTexts texts).tree = .ok texts :=
  readList_array hdepth fun s _ => readText_string s

/-- Members are read in order where each key and each value is, and one more container may be opened. -/
theorem readMembers_of_forall₂ (expected : String) {read : Tree → Result α}
    {pairs : List (String × α)} {members : List (Quoted × Tree)} (hdepth : 0 < depth)
    (h : List.Forall₂ (fun p m => m.1.text = .ok p.1 ∧ read m.2 = .ok p.2) pairs members) :
    readMembers expected depth read (.object members .closed) = .ok pairs := by
  rw [readMembers, if_neg hdepth.ne', mapM_eq_ok_of_forall₂]
  · rfl
  · refine h.imp ?_
    rintro ⟨name, value⟩ ⟨key, t⟩ ⟨hkey, hvalue⟩
    show (key.text >>= fun name => read t >>= fun value => pure (name, value)) = _
    rw [hkey, ok_bind, hvalue, ok_bind]
    rfl

/-- The members of an object are read with their names, in order. -/
theorem readMembers_object {β : Type} (expected : String) {read : Tree → Result β}
    {toJson : β → Json} {pairs : List (String × β)} (hdepth : 0 < depth)
    (h : ∀ p ∈ pairs, read (toJson p.2).tree = .ok p.2) :
    readMembers expected depth read (Json.object (pairs.map fun p => (p.1, toJson p.2))).tree =
      .ok pairs := by
  rw [tree_object, List.map_map]
  refine readMembers_of_forall₂ expected hdepth
    (List.forall₂_map_right_iff.2 (List.forall₂_same.2 ?_))
  intro p hp
  exact ⟨Quoted.text_ofString p.1, h p hp⟩

/-- Where the members of an object are read, each value is. -/
theorem exists_read_of_readMembers {expected : String} {read : Tree → Result α}
    {members : List (String × Json)} {pairs : List (String × α)}
    (h : readMembers expected depth read (Json.object members).tree = .ok pairs) :
    ∀ m ∈ members, ∃ a, read m.2.tree = .ok a := by
  rw [tree_object, readMembers] at h
  split at h
  · cases h
  · obtain ⟨values, hvalues, -⟩ := bind_eq_ok_iff.1 h
    intro m hm
    obtain ⟨pair, hpair⟩ := exists_of_mapM_eq_ok hvalues _ (List.mem_map_of_mem hm)
    obtain ⟨key, -, hpair⟩ := bind_eq_ok_iff.1 hpair
    obtain ⟨a, ha, -⟩ := bind_eq_ok_iff.1 hpair
    exact ⟨a, ha⟩

/-- A dictionary is read where one more container may be opened. -/
theorem readDict_ofDict {read : Tree → Result α} {toJson : α → Json} {d : Dict α}
    (hdepth : 0 < depth) (h : ∀ e ∈ d.entries, read (toJson e.2).tree = .ok e.2) :
    readDict depth read (Json.ofDict toJson d).tree = .ok d := by
  rw [readDict, Json.ofDict, readMembers_object "a map" hdepth h, map_ok, Dict.ofList_entries]

theorem readDict_ofTextDict (hdepth : 0 < depth) (d : Dict String) :
    readDict depth readText (Json.ofTextDict d).tree = .ok d :=
  readDict_ofDict hdepth fun e _ => readText_string e.2

/-- Where a dictionary is read, each value is. -/
theorem exists_read_of_readDict {β : Type} {read : Tree → Result α} {toJson : β → Json} {d : Dict β}
    {r : Dict α} (h : readDict depth read (Json.ofDict toJson d).tree = .ok r) :
    ∀ e ∈ d.entries, ∃ a, read (toJson e.2).tree = .ok a := by
  rw [readDict, map_eq_ok_iff] at h
  obtain ⟨pairs, hpairs, -⟩ := h
  exact fun e he => exists_read_of_readMembers hpairs _ (List.mem_map_of_mem he)

end Containers

/-! ## Records -/

section Records

variable {α : Type}

/-- A field that reads a value puts it into the record. -/
theorem Field.read_of {β : Type} {name : String} {presence : Presence} {read : Tree → Result β}
    {put : β → α → α} {t : Tree} {b : β} (h : read t = .ok b) :
    (Field.of name presence read put).read t = .ok (put b) := by
  show (read t).map put = _
  rw [h, map_ok]

/-- Where a field is read, its value is. -/
theorem Field.exists_of_read {β : Type} {name : String} {presence : Presence}
    {read : Tree → Result β} {put : β → α → α} {t : Tree} {f : α → α}
    (h : (Field.of name presence read put).read t = .ok f) : ∃ b, read t = .ok b := by
  obtain ⟨b, hb, -⟩ := map_eq_ok_iff.1 h
  exact ⟨b, hb⟩

/-- The members fill the fields in their order, and make the one record to the other. -/
inductive Fills : List (Field α) → List (String × Tree) → α → α → Prop
  | done (a : α) : Fills [] [] a a
  | read {field : Field α} {fields : List (Field α)} {t : Tree} {members : List (String × Tree)}
      {put : α → α} {a b : α} (head : field.read t = .ok put)
      (tail : Fills fields members (put a) b) :
      Fills (field :: fields) ((field.name, t) :: members) a b
  | omitted {field : Field α} {fields : List (Field α)} {members : List (String × Tree)} {a b : α}
      (head : field.presence ≠ .required) (tail : Fills fields members a b) :
      Fills (field :: fields) members a b

namespace Shape

/-- A field is found by its name. -/
theorem find?_field {fields : List (Field α)} (hnames : (fields.map Field.name).Nodup)
    {field : Field α} (hfield : field ∈ fields) :
    fields.find? (·.name == field.name) = some field := by
  induction fields with
  | nil => cases hfield
  | cons f fields ih =>
      obtain ⟨hhead, htail⟩ := List.nodup_cons.1 hnames
      rcases List.mem_cons.1 hfield with rfl | hfield
      · simp
      · have hne : f.name ≠ field.name := fun e => hhead (e ▸ List.mem_map_of_mem hfield)
        rw [List.find?_cons_of_neg (by simpa using hne), ih htail hfield]

/-! ### One member -/

/-- One member is read where the fields in `seen` have been: it is skipped when its key is no field,
and otherwise its value is put into the record. -/
inductive Takes (shape : Shape α) (seen : List String) (a : α) :
    Quoted × Tree → List String → α → Prop
  | skipped {key : Quoted} {t : Tree} {name : String} (hname : key.text = .ok name)
      (hforeign : name ∉ shape.fields.map Field.name) (hskip : t.skip = .ok ()) :
      Takes shape seen a (key, t) seen a
  | put {key : Quoted} {t : Tree} {field : Field α} {put : α → α}
      (hname : key.text = .ok field.name) (hfield : field ∈ shape.fields)
      (hnew : field.name ∉ seen) (hread : field.read t = .ok put) :
      Takes shape seen a (key, t) (field.name :: seen) (put a)

/-- An object is read by taking its first member and then reading the others. -/
theorem readObject_cons_iff {shape : Shape α} (hnames : (shape.fields.map Field.name).Nodup)
    {seen : List String} {a b : α} {stop : Stop} {m : Quoted × Tree}
    {members : List (Quoted × Tree)} :
    shape.readObject seen a stop (m :: members) = .ok b ↔
      ∃ seen' a', shape.Takes seen a m seen' a' ∧
        shape.readObject seen' a' stop members = .ok b := by
  obtain ⟨key, t⟩ := m
  rw [readObject]
  constructor
  · intro h
    obtain ⟨name, hname, h⟩ := bind_eq_ok_iff.1 h
    cases hfind : shape.fields.find? (·.name == name) with
    | none =>
        rw [hfind] at h
        obtain ⟨_, hskip, h⟩ := bind_eq_ok_iff.1 h
        refine ⟨seen, a, .skipped hname ?_ hskip, h⟩
        simpa using hfind
    | some field =>
        rw [hfind] at h
        obtain rfl : field.name = name := by simpa using List.find?_some hfind
        dsimp only at h
        split at h
        · cases h
        · rename_i hnew
          obtain ⟨put, hread, h⟩ := bind_eq_ok_iff.1 h
          rw [List.contains_iff_mem] at hnew
          exact ⟨_, _, .put hname (List.mem_of_find?_eq_some hfind) hnew hread, h⟩
  · rintro ⟨seen', a', htakes, h⟩
    cases htakes with
    | @skipped _ _ name hname hforeign hskip =>
        have hfind : shape.fields.find? (·.name == name) = none := by simpa using hforeign
        rw [hname, ok_bind, hfind]
        exact bind_eq_ok_iff.2 ⟨(), hskip, h⟩
    | put hname hfield hnew hread =>
        rw [hname, ok_bind, find?_field hnames hfield]
        dsimp only
        rw [if_neg (mt List.contains_iff_mem.1 hnew)]
        exact bind_eq_ok_iff.2 ⟨_, hread, h⟩

/-! ### All members -/

/-- The members of an object are read into the fields behind those that were read before. -/
theorem readObject_of_fills (shape : Shape α) (hnames : (shape.fields.map Field.name).Nodup)
    {fields : List (Field α)} {members : List (String × Tree)} {a b : α}
    (h : Fills fields members a b) (before : List (Field α))
    (hfields : shape.fields = before ++ fields) {seen : List String}
    (hseen : ∀ name ∈ seen, name ∈ before.map Field.name)
    (hrequired : ∀ field ∈ before, field.presence = .required → field.name ∈ seen) :
    shape.readObject seen a .closed (members.map fun m => (.ofString m.1, m.2)) = .ok b := by
  induction h generalizing before seen with
  | done a =>
      rw [List.append_nil] at hfields
      have hnone : (shape.fields.find? fun field =>
          field.presence = .required && !seen.contains field.name) = none := by
        rw [List.find?_eq_none]
        intro field hfield
        have := hrequired field (hfields ▸ hfield)
        simp only [Bool.and_eq_true, decide_eq_true_eq, Bool.not_eq_true', not_and,
          Bool.not_eq_false, List.contains_iff_mem]
        exact this
      rw [List.map_nil, readObject, Stop.finish, ok_bind, hnone]
      rfl
  | @read field fields t members put a b hread htail ih =>
      have hmem : field ∈ shape.fields := by rw [hfields]; simp
      have hnew : field.name ∉ before.map Field.name := by
        rw [hfields, List.map_append, List.nodup_append] at hnames
        intro hmem
        exact hnames.2.2 _ hmem _ List.mem_cons_self rfl
      refine (readObject_cons_iff hnames).2 ⟨_, _, .put (Quoted.text_ofString _) hmem
        (fun h => hnew (hseen _ h)) hread, ih (before ++ [field]) ?_ ?_ ?_⟩
      · rw [hfields, List.append_assoc]
        rfl
      · intro name hname
        rw [List.map_append, List.mem_append]
        rcases List.mem_cons.1 hname with rfl | hname
        · exact .inr List.mem_cons_self
        · exact .inl (hseen name hname)
      · intro f hf hf'
        rcases List.mem_append.1 hf with hf | hf
        · exact List.mem_cons_of_mem _ (hrequired f hf hf')
        · rw [List.mem_singleton.1 hf]
          exact List.mem_cons_self
  | @omitted field fields members a b hpresence htail ih =>
      apply ih (before ++ [field])
      · rw [hfields, List.append_assoc]
        rfl
      · intro name hname
        rw [List.map_append]
        exact List.mem_append_left _ (hseen name hname)
      · intro f hf hf'
        rcases List.mem_append.1 hf with hf | hf
        · exact hrequired f hf hf'
        · exact absurd (List.mem_singleton.1 hf ▸ hf') hpresence

/-- The members of an object are read into all of the fields. -/
theorem readObject_of_fills_fields (shape : Shape α)
    (hnames : (shape.fields.map Field.name).Nodup) {members : List (String × Tree)} {a b : α}
    (h : Fills shape.fields members a b) :
    shape.readObject [] a .closed (members.map fun m => (.ofString m.1, m.2)) = .ok b :=
  shape.readObject_of_fills hnames h [] rfl nofun nofun

/-- **A record is read from an object whose members fill its fields.** -/
theorem read_object (shape : Shape α) {depth : Nat} (hdepth : 0 < depth)
    (hnames : (shape.fields.map Field.name).Nodup) {members : List (String × Json)} {a : α}
    (h : Fills shape.fields (members.map fun m => (m.1, m.2.tree)) shape.start a) :
    shape.read depth (Json.object members).tree = .ok a := by
  have hread := shape.readObject_of_fills_fields hnames h
  rw [List.map_map] at hread
  rw [tree_object, read, if_neg hdepth.ne']
  exact hread

/-- Where the members of an object are read, each is read by its field. -/
theorem exists_read_of_readObject (shape : Shape α)
    (hnames : (shape.fields.map Field.name).Nodup) {members : List (String × Json)}
    {seen : List String} {a b : α}
    (h : shape.readObject seen a .closed (members.map fun m => (.ofString m.1, m.2.tree)) = .ok b)
    {field : Field α} (hfield : field ∈ shape.fields) {value : Json}
    (hvalue : (field.name, value) ∈ members) : ∃ put, field.read value.tree = .ok put := by
  induction members generalizing seen a with
  | nil => cases hvalue
  | cons m members ih =>
      obtain ⟨seen', a', htakes, h⟩ := (readObject_cons_iff hnames).1 h
      rcases List.mem_cons.1 hvalue with rfl | hvalue
      · cases htakes with
        | skipped hname hforeign hskip =>
            rw [Quoted.text_ofString] at hname
            cases hname
            exact absurd (List.mem_map_of_mem hfield) hforeign
        | @put _ _ found put hname hfound hnew hread =>
            rw [Quoted.text_ofString] at hname
            obtain rfl : found = field :=
              List.inj_on_of_nodup_map hnames hfound hfield (Except.ok.inj hname).symm
            exact ⟨put, hread⟩
      · exact ih h hvalue

/-- Where a record is read from an object, a container could be opened, and each member is read by
its field. -/
theorem exists_read_of_read (shape : Shape α) {depth : Nat}
    (hnames : (shape.fields.map Field.name).Nodup) {members : List (String × Json)} {a : α}
    (h : shape.read depth (Json.object members).tree = .ok a) :
    0 < depth ∧ ∀ field ∈ shape.fields, ∀ value, (field.name, value) ∈ members →
      ∃ put, field.read value.tree = .ok put := by
  rw [tree_object, read] at h
  split at h
  · cases h
  · rename_i hdepth
    exact ⟨Nat.pos_of_ne_zero hdepth, fun field hfield value hvalue =>
      shape.exists_read_of_readObject hnames h hfield hvalue⟩

end Shape

end Records

end CanvasExport.Json
