import CanvasExport.Dict
/-!
# Properties of a component

`Props` maps names to texts that may be absent.  The names keep the order of their first insertion;
inserting a name again replaces its value in place.
-/

namespace CanvasExport

/-- Properties in the order of their first insertion. -/
structure Props where
  /-- The names and values. -/
  entries : List (String × Option String)
  /-- No name occurs twice. -/
  distinct : (entries.map Prod.fst).Nodup

namespace Props

@[ext] theorem ext {a b : Props} (h : a.entries = b.entries) : a = b := by
  cases a; cases b; cases h; rfl

instance : DecidableEq Props := fun a b =>
  if h : a.entries = b.entries then .isTrue (ext h)
  else .isFalse fun e => h (congrArg entries e)

/-- No properties. -/
def empty : Props := ⟨[], List.Pairwise.nil⟩

instance : Inhabited Props := ⟨empty⟩

/-- How many properties there are. -/
def size (p : Props) : Nat := p.entries.length

/-- Whether there are no properties. -/
def isEmpty (p : Props) : Bool := p.entries.isEmpty

/-- The names in order. -/
def names (p : Props) : List String := p.entries.map Prod.fst

/-- The value of a name; the outer option tells whether the name is there. -/
def get? (p : Props) (name : String) : Option (Option String) := p.entries.lookup name

/-- Sets the value of a name in place, or at the end where the name is new. -/
def put (name : String) (value : Option String) :
    List (String × Option String) → List (String × Option String)
  | [] => [(name, value)]
  | (n, v) :: rest => if n = name then (n, value) :: rest else (n, v) :: put name value rest

/-- The names after setting a value: the same, or one more at the end. -/
theorem map_fst_put (name : String) (value : Option String) (entries : List (String × Option String)) :
    (put name value entries).map Prod.fst =
      if name ∈ entries.map Prod.fst then entries.map Prod.fst else entries.map Prod.fst ++ [name] := by
  induction entries with
  | nil => simp [put]
  | cons e rest ih =>
      obtain ⟨n, v⟩ := e
      by_cases h : n = name
      · simp [put, h]
      · have h' : ¬ name = n := fun e => h e.symm
        simp only [put, h, if_false, List.map_cons, ih, List.mem_cons, h', false_or]
        split <;> simp

/-- What a name stands for after setting a value. -/
theorem lookup_put (name : String) (value : Option String) (entries : List (String × Option String))
    (n : String) :
    (put name value entries).lookup n = if n = name then some value else entries.lookup n := by
  induction entries with
  | nil => simp [put, Dict.lookup_cons_eq_ite]
  | cons e rest ih =>
      obtain ⟨n', v⟩ := e
      by_cases h : n' = name
      · subst h
        by_cases hn : n = n' <;> simp [put, Dict.lookup_cons_eq_ite, hn]
      · by_cases hn : n = n'
        · simp [put, hn, h]
        · simp [put, Dict.lookup_cons_eq_ite, hn, h, ih]

/-- The properties with the value of a name set. -/
def insert (p : Props) (name : String) (value : Option String) : Props where
  entries := put name value p.entries
  distinct := by
    rw [map_fst_put]
    split
    · exact p.distinct
    · rename_i h
      rw [List.nodup_append]
      refine ⟨p.distinct, by simp, ?_⟩
      rintro a ha b hb rfl
      exact h (List.mem_singleton.1 hb ▸ ha)

/-- The name stands for the new value, and all others for what they stood for. -/
@[simp] theorem get?_insert (p : Props) (name : String) (value : Option String) (n : String) :
    (p.insert name value).get? n = if n = name then some value else p.get? n :=
  lookup_put name value p.entries n

/-- A new name comes last, and a known one keeps its place. -/
theorem names_insert (p : Props) (name : String) (value : Option String) :
    (p.insert name value).names = if name ∈ p.names then p.names else p.names ++ [name] :=
  map_fst_put name value p.entries

/-- The properties after inserting the pairs one after the other. -/
def ofList (pairs : List (String × Option String)) : Props :=
  pairs.foldl (fun p pair => p.insert pair.1 pair.2) empty

end Props

end CanvasExport
