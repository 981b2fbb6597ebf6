/-!
# Dictionaries sorted by key

A `Dict α` maps texts to values.  Its entries are sorted by key, code point by code point, and no key
occurs twice, so two dictionaries with the same entries are equal.  `insert` replaces, `insertNew`
keeps what is there.
-/

namespace CanvasExport

/-- Entries whose keys ascend strictly. -/
def SortedKeys {α : Type} (entries : List (String × α)) : Prop :=
  (entries.map Prod.fst).Pairwise (· < ·)

/-- A finite map from texts, sorted by key. -/
structure Dict (α : Type) where
  /-- The entries in the order of their keys. -/
  entries : List (String × α)
  /-- The keys ascend strictly. -/
  sorted : SortedKeys entries

namespace Dict

variable {α : Type}

@[ext] theorem ext {a b : Dict α} (h : a.entries = b.entries) : a = b := by
  cases a; cases b; cases h; rfl

instance [DecidableEq α] : DecidableEq (Dict α) := fun a b =>
  if h : a.entries = b.entries then .isTrue (ext h)
  else .isFalse fun e => h (congrArg entries e)

/-- The dictionary without entries. -/
def empty : Dict α := ⟨[], List.Pairwise.nil⟩

instance : Inhabited (Dict α) := ⟨empty⟩

/-- Whether there are no entries. -/
def isEmpty (d : Dict α) : Bool := d.entries.isEmpty

/-- How many entries there are. -/
def size (d : Dict α) : Nat := d.entries.length

/-- The value of a key. -/
def get? (d : Dict α) (key : String) : Option α := d.entries.lookup key

@[simp] theorem get?_empty (key : String) : (empty : Dict α).get? key = none := rfl

/-- The first entry counts for its key. -/
theorem lookup_cons_eq_ite (k k' : String) (v : α) (rest : List (String × α)) :
    List.lookup k ((k', v) :: rest) = if k = k' then some v else rest.lookup k := by
  rw [List.lookup_cons]
  by_cases h : k = k'
  · simp [h]
  · rw [beq_eq_false_iff_ne.2 h, if_neg h]

/-- A key in front of all others has no value. -/
theorem lookup_eq_none_of_lt {key : String} {entries : List (String × α)}
    (h : ∀ k ∈ entries.map Prod.fst, key < k) : entries.lookup key = none := by
  induction entries with
  | nil => rfl
  | cons e rest ih =>
      obtain ⟨k, v⟩ := e
      have hne : key ≠ k := fun e => String.lt_irrefl k (e ▸ h k (by simp))
      rw [lookup_cons_eq_ite, if_neg hne]
      exact ih fun k' hk' => h k' (List.mem_cons_of_mem _ hk')

/-! ## Insertion -/

/-- Puts an entry in its place; a value that is already there is handed to `choose`. -/
def place (key : String) (value : α) (choose : α → α) : List (String × α) → List (String × α)
  | [] => [(key, value)]
  | (k, v) :: rest =>
      if key < k then (key, value) :: (k, v) :: rest
      else if k = key then (key, choose v) :: rest
      else (k, v) :: place key value choose rest

/-- No key comes in but the given one. -/
theorem mem_keys_place {key : String} {value : α} {choose : α → α} {entries : List (String × α)}
    {k : String} (h : k ∈ (place key value choose entries).map Prod.fst) :
    k = key ∨ k ∈ entries.map Prod.fst := by
  induction entries with
  | nil => simpa [place] using h
  | cons e rest ih =>
      obtain ⟨k', v⟩ := e
      simp only [place] at h
      split at h
      · simpa using h
      · split at h
        · rename_i heq
          simp only [List.map_cons, List.mem_cons] at h ⊢
          rcases h with h | h
          · exact .inl h
          · exact .inr (.inr h)
        · simp only [List.map_cons, List.mem_cons] at h ⊢
          rcases h with h | h
          · exact .inr (.inl h)
          · rcases ih h with h | h
            · exact .inl h
            · exact .inr (.inr h)

/-- The keys still ascend. -/
theorem sortedKeys_place (key : String) (value : α) (choose : α → α)
    {entries : List (String × α)} (h : SortedKeys entries) :
    SortedKeys (place key value choose entries) := by
  induction entries with
  | nil => simp [place, SortedKeys]
  | cons e rest ih =>
      obtain ⟨k, v⟩ := e
      obtain ⟨hk, hrest⟩ := List.pairwise_cons.1 h
      simp only [place]
      split
      · rename_i hlt
        refine List.pairwise_cons.2 ⟨?_, h⟩
        intro k' hk'
        rcases List.mem_cons.1 hk' with rfl | hk'
        · exact hlt
        · exact String.lt_trans hlt (hk k' hk')
      · split
        · rename_i heq
          subst heq
          exact List.pairwise_cons.2 ⟨hk, hrest⟩
        · rename_i hge hne
          refine List.pairwise_cons.2 ⟨?_, ih hrest⟩
          intro k' hk'
          rcases mem_keys_place hk' with rfl | hk'
          · rcases String.le_total k k' with hle | hle
            · exact Decidable.not_not.1 fun hnlt =>
                hne (String.le_antisymm hle (String.not_lt.1 hnlt))
            · exact absurd (Decidable.not_not.1 fun hnlt =>
                hne (String.le_antisymm (String.not_lt.1 hnlt) hle)) hge
          · exact hk k' hk'

/-- What a key stands for after an entry has been put in its place. -/
theorem lookup_place (key : String) (value : α) (choose : α → α) {entries : List (String × α)}
    (h : SortedKeys entries) (k : String) :
    (place key value choose entries).lookup k =
      if k = key then some (((entries.lookup key).map choose).getD value)
      else entries.lookup k := by
  induction entries with
  | nil => simp [place, lookup_cons_eq_ite]
  | cons e rest ih =>
      obtain ⟨k', v⟩ := e
      obtain ⟨hlow, hrest⟩ := List.pairwise_cons.1 h
      simp only [place]
      split
      · rename_i hlt
        have hnone : List.lookup key ((k', v) :: rest) = none := by
          refine lookup_eq_none_of_lt fun k hk => ?_
          rcases List.mem_cons.1 hk with rfl | hk
          · exact hlt
          · exact String.lt_trans hlt (hlow k hk)
        rw [hnone, lookup_cons_eq_ite]
        rfl
      · split
        · rename_i heq
          subst heq
          by_cases hk : k = k' <;> simp [lookup_cons_eq_ite, hk]
        · rename_i hne
          rw [lookup_cons_eq_ite, ih hrest, lookup_cons_eq_ite, lookup_cons_eq_ite,
            if_neg (Ne.symm hne)]
          by_cases hk : k = key
          · simp [hk, Ne.symm hne]
          · simp [hk]

/-- The dictionary with the key set to the value. -/
def insert (d : Dict α) (key : String) (value : α) : Dict α :=
  ⟨place key value (fun _ => value) d.entries, sortedKeys_place _ _ _ d.sorted⟩

/-- The dictionary with the key set to the value, unless the key is already there. -/
def insertNew (d : Dict α) (key : String) (value : α) : Dict α :=
  ⟨place key value id d.entries, sortedKeys_place _ _ _ d.sorted⟩

/-- The key stands for the new value, and all others for what they stood for. -/
@[simp] theorem get?_insert (d : Dict α) (key : String) (value : α) (k : String) :
    (d.insert key value).get? k = if k = key then some value else d.get? k := by
  have h := lookup_place key value (fun _ => value) d.sorted k
  have hv : ((d.entries.lookup key).map fun _ => value).getD value = value := by
    cases d.entries.lookup key <;> rfl
  rw [hv] at h
  exact h

/-- The key stands for its old value, or for the new one if it had none. -/
@[simp] theorem get?_insertNew (d : Dict α) (key : String) (value : α) (k : String) :
    (d.insertNew key value).get? k =
      if k = key then some ((d.get? key).getD value) else d.get? k := by
  have h := lookup_place key value id d.sorted k
  rw [Option.map_id] at h
  exact h

/-- The dictionary of a list of pairs; of pairs with the same key the last one counts. -/
def ofList (pairs : List (String × α)) : Dict α :=
  pairs.foldl (fun d pair => d.insert pair.1 pair.2) empty

end Dict

end CanvasExport
