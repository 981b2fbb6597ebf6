import CanvasExport.Dict
import Mathlib.Data.List.Induction
import Mathlib.Data.List.Sort
/-!
# Dictionaries as finite maps

A dictionary is the map from keys to values that `get?` reads: its entries are the keys with a value
(`mem_entries_iff`), and it is determined by them (`ext_get?`).  `restrict` keeps some keys alone.
`insertNew` is the insertion of a key that is not there (`insertNew_eq_insert`,
`insertNew_eq_self`).  Inserted in their order, the entries make the dictionary again
(`ofList_entries`).  Where an insertion adds its key behind the others unless it is there, the keys
of any insertions in a row are those that were inserted, in the order in which they first came
(`keys_foldl_eq_eraseDups`).
-/

namespace CanvasExport.Dict

variable {α : Type}

/-! ## Entries -/

/-- The entries are the keys with their values. -/
theorem mem_entries_iff (d : Dict α) (key : String) (value : α) :
    (key, value) ∈ d.entries ↔ d.get? key = some value := by
  have read (entries : List (String × α)) (h : SortedKeys entries) :
      (key, value) ∈ entries ↔ entries.lookup key = some value := by
    induction entries with
    | nil => simp
    | cons e rest ih =>
        obtain ⟨k, v⟩ := e
        obtain ⟨hlow, hrest⟩ := List.pairwise_cons.1 h
        rw [List.mem_cons, ih hrest, lookup_cons_eq_ite]
        by_cases hk : key = k
        · -- the key does not come back behind its entry
          have hnone : rest.lookup key = none :=
            lookup_eq_none_of_lt fun k' hk' => hk ▸ hlow k' hk'
          rw [if_pos hk, hnone]
          simp [hk, eq_comm]
        · rw [if_neg hk]
          simp [hk]
  exact read d.entries d.sorted

/-- What is found in a list of entries is in it. -/
theorem mem_of_lookup_eq_some {κ : Type} [BEq κ] [LawfulBEq κ] {entries : List (κ × α)} {key : κ}
    {value : α} (h : entries.lookup key = some value) : (key, value) ∈ entries := by
  obtain ⟨before, after, rfl, -⟩ := List.lookup_eq_some_iff.1 h
  exact List.mem_append_right _ List.mem_cons_self

/-- The entries are ordered by key. -/
theorem pairwise_entries (d : Dict α) : d.entries.Pairwise fun a b => a.1 < b.1 :=
  List.pairwise_map.1 d.sorted

/-- A dictionary is determined by what its keys stand for. -/
theorem ext_get? {a b : Dict α} (h : ∀ key, a.get? key = b.get? key) : a = b := by
  apply ext
  have irrefl : Std.Irrefl fun x y : String × α => x.1 < y.1 := ⟨fun x => String.lt_irrefl x.1⟩
  refine List.Pairwise.eq_of_mem_iff a.pairwise_entries b.pairwise_entries ?_
  rintro ⟨key, value⟩
  rw [mem_entries_iff, mem_entries_iff, h]

/-! ## Restriction -/

/-- The dictionary with the entries of the given keys alone. -/
def restrict (d : Dict α) (keys : List String) : Dict α where
  entries := d.entries.filter (keys.contains ·.1)
  sorted := List.Pairwise.sublist (List.filter_sublist.map Prod.fst) d.sorted

/-- The given keys stand for what they stood for, and all others for nothing. -/
theorem get?_restrict (d : Dict α) (keys : List String) (key : String) :
    (d.restrict keys).get? key = if key ∈ keys then d.get? key else none := by
  apply Option.ext
  intro value
  rw [← mem_entries_iff, restrict, List.mem_filter, mem_entries_iff]
  by_cases hkey : key ∈ keys
  · simp [hkey]
  · simp [hkey]

/-- A given key stands for what it stood for. -/
theorem get?_restrict_of_mem (d : Dict α) {keys : List String} {key : String} (h : key ∈ keys) :
    (d.restrict keys).get? key = d.get? key := by
  rw [get?_restrict, if_pos h]

/-! ## Insertion of new keys -/

/-- A key that is there is left alone. -/
theorem insertNew_eq_self {d : Dict α} {key : String} {value old : α}
    (h : d.get? key = some old) : d.insertNew key value = d := by
  apply ext_get?
  intro k
  rw [get?_insertNew, h]
  split
  · rename_i hk
    rw [hk, h, Option.getD_some]
  · rfl

/-- A key that is not there is inserted. -/
theorem insertNew_eq_insert {d : Dict α} {key : String} {value : α} (h : d.get? key = none) :
    d.insertNew key value = d.insert key value := by
  apply ext_get?
  intro k
  rw [get?_insertNew, get?_insert, h, Option.getD_none]

/-! ## Insertion in order -/

/-- An entry behind all others is put at the end. -/
theorem place_eq_append {key : String} {value : α} {choose : α → α} {entries : List (String × α)}
    (h : ∀ k ∈ entries.map Prod.fst, k < key) :
    place key value choose entries = entries ++ [(key, value)] := by
  induction entries with
  | nil => rfl
  | cons e rest ih =>
      obtain ⟨k, v⟩ := e
      have hk : k < key := h k List.mem_cons_self
      have hnlt : ¬key < k := fun hlt => String.lt_irrefl k (String.lt_trans hk hlt)
      have hne : k ≠ key := fun e => String.lt_irrefl k (e ▸ hk)
      rw [place, if_neg hnlt, if_neg hne, ih fun k' hk' => h k' (List.mem_cons_of_mem _ hk')]
      rfl

/-- Where an entry that may stand behind those that are there is put behind them, entries in a row are
put there in a row. -/
theorem entries_foldl_eq_append {σ ε : Type} {entries : σ → List ε} {insert : σ → ε → σ}
    (MayStand : List ε → ε → Prop)
    (hinsert : ∀ s e, MayStand (entries s) e → entries (insert s e) = entries s ++ [e])
    {es : List ε} (hes : ∀ before e after, es = before ++ e :: after → MayStand before e)
    {s : σ} (hs : entries s = []) : entries (es.foldl insert s) = es := by
  -- the entries so far are those in front of the ones to come
  have hfold (before rest : List ε) (hsplit : es = before ++ rest) (s : σ)
      (hs : entries s = before) : entries (rest.foldl insert s) = es := by
    induction rest generalizing before s with
    | nil => rw [List.foldl_nil, hs, hsplit, List.append_nil]
    | cons e rest ih =>
        have hnext : entries (insert s e) = before ++ [e] := by
          rw [hinsert s e (hs ▸ hes before e rest hsplit), hs]
        rw [List.foldl_cons]
        exact ih (before ++ [e]) (by rw [hsplit, List.append_assoc]; rfl) (insert s e) hnext
  exact hfold [] es rfl s hs

/-- The dictionary of its own entries. -/
theorem ofList_entries (d : Dict α) : ofList d.entries = d := by
  apply ext
  refine entries_foldl_eq_append (fun before e => ∀ k ∈ before.map Prod.fst, k < e.1)
    (fun d e h => place_eq_append h) ?_ rfl
  intro before e after hsplit k hk
  have hsorted := d.sorted
  rw [hsplit, SortedKeys, List.map_append] at hsorted
  exact (List.pairwise_append.1 hsorted).2.2 k hk e.1 List.mem_cons_self

/-! ## Keys in the order of their first insertion -/

/-- Nothing is dropped from a list without repetition. -/
theorem eraseDups_eq_self {keys : List String} (h : keys.Nodup) : keys.eraseDups = keys := by
  induction keys with
  | nil => rfl
  | cons key keys ih =>
      obtain ⟨hkey, hkeys⟩ := List.nodup_cons.1 h
      have hfilter : keys.filter (fun k => !k == key) = keys := by
        refine List.filter_eq_self.2 fun k hk => ?_
        simpa using fun e : k = key => hkey (e ▸ hk)
      rw [List.eraseDups_cons, hfilter, ih hkeys]

/-- A key at the end counts unless it came before. -/
theorem eraseDups_append_singleton (keys : List String) (key : String) :
    (keys ++ [key]).eraseDups =
      if key ∈ keys then keys.eraseDups else keys.eraseDups ++ [key] := by
  rw [List.eraseDups_append]
  by_cases h : key ∈ keys
  · simp [List.removeAll, h]
  · simp [List.removeAll, h, List.eraseDups_cons]

/-- Where an insertion adds its key at the end unless it is there, the keys after insertions in a row
are those that were there and those inserted, each at its first place. -/
theorem keys_foldl_eq_eraseDups {σ ε : Type} {keys : σ → List String} {insert : σ → ε → σ}
    {key : ε → String}
    (hinsert : ∀ s e, keys (insert s e) =
      if key e ∈ keys s then keys s else keys s ++ [key e])
    {s : σ} (hs : (keys s).Nodup) (es : List ε) :
    keys (es.foldl insert s) = (keys s ++ es.map key).eraseDups := by
  induction es using List.reverseRecOn with
  | nil => rw [List.foldl_nil, List.map_nil, List.append_nil, eraseDups_eq_self hs]
  | append_singleton es e ih =>
      rw [List.foldl_append, List.foldl_cons, List.foldl_nil, hinsert, ih, List.map_append,
        ← List.append_assoc, List.map_singleton, eraseDups_append_singleton]
      simp only [List.mem_eraseDups]

end CanvasExport.Dict
