import CanvasExport.Props
import CanvasExport.Proofs.Dict
/-!
# Properties after insertions

Properties that are inserted one after the other have the names in the order in which they first came
(`Props.names_ofList`), each with the value that came last (`Props.get?_ofList_eq_some_iff`).
-/

namespace CanvasExport.Props

/-- A name keeps the place at which it first came. -/
theorem names_ofList (pairs : List (String × Option String)) :
    (ofList pairs).names = (pairs.map Prod.fst).eraseDups := by
  have hinsert (p : Props) (e : String × Option String) : (p.insert e.1 e.2).names =
      if e.1 ∈ p.names then p.names else p.names ++ [e.1] := p.names_insert e.1 e.2
  exact Dict.keys_foldl_eq_eraseDups hinsert empty.distinct pairs

/-- The value that came last counts. -/
theorem get?_ofList (pairs : List (String × Option String)) (name : String) :
    (ofList pairs).get? name = pairs.reverse.lookup name := by
  induction pairs using List.reverseRecOn with
  | nil => rfl
  | append_singleton pairs pair ih =>
      have hlast : ofList (pairs ++ [pair]) = (ofList pairs).insert pair.1 pair.2 :=
        List.foldl_append
      rw [hlast, get?_insert, ih, List.reverse_append, List.reverse_singleton,
        List.singleton_append, Dict.lookup_cons_eq_ite]

/-- From the last pair to the first, a name is that of none where it is not among the names. -/
theorem forall_mem_reverse_ne_iff {pairs : List (String × Option String)} {name : String} :
    (∀ pair ∈ pairs.reverse, (name != pair.1) = true) ↔ name ∉ pairs.map Prod.fst := by
  constructor
  · intro hne hmem
    obtain ⟨pair, hpair, rfl⟩ := List.mem_map.1 hmem
    simpa using hne pair (List.mem_reverse.2 hpair)
  · intro hnew pair hpair
    have hne : name ≠ pair.1 := by
      rintro rfl
      exact hnew (List.mem_map_of_mem (List.mem_reverse.1 hpair))
    simpa using hne

/-- A name is absent where it never came. -/
theorem get?_ofList_eq_none_iff {pairs : List (String × Option String)} {name : String} :
    (ofList pairs).get? name = none ↔ name ∉ pairs.map Prod.fst := by
  rw [get?_ofList, List.lookup_eq_none_iff, forall_mem_reverse_ne_iff]

/-- The value is the last one that the pairs have under the name. -/
def IsLast (pairs : List (String × Option String)) (name : String) (value : Option String) : Prop :=
  ∃ before after, pairs = before ++ (name, value) :: after ∧ name ∉ after.map Prod.fst

/-- A name stands for its last value. -/
theorem get?_ofList_eq_some_iff {pairs : List (String × Option String)} {name : String}
    {value : Option String} : (ofList pairs).get? name = some value ↔ IsLast pairs name value := by
  rw [get?_ofList, List.lookup_eq_some_iff]
  constructor
  · rintro ⟨after, before, hpairs, hafter⟩
    -- what comes behind the pair comes before it from the last pair on
    obtain ⟨after, rfl⟩ := List.reverse_surjective after
    refine ⟨before.reverse, after, ?_, forall_mem_reverse_ne_iff.1 hafter⟩
    rw [← List.reverse_reverse pairs, hpairs]
    simp
  · rintro ⟨before, after, rfl, hafter⟩
    exact ⟨after.reverse, before.reverse, by simp, forall_mem_reverse_ne_iff.2 hafter⟩

/-- Where the value is a matter of the name alone, it does not matter how often a name comes. -/
theorem get?_ofList_map (value : String → Option String) (names : List String) (name : String) :
    (ofList (names.map fun n => (n, value n))).get? name =
      if name ∈ names then some (value name) else none := by
  split
  · rename_i h
    rw [get?_ofList, ← List.map_reverse]
    exact List.lookup_graph value (List.mem_reverse.2 h)
  · rename_i h
    rw [get?_ofList_eq_none_iff, List.map_map]
    intro hmem
    obtain ⟨n, hn, rfl⟩ := List.mem_map.1 hmem
    exact h hn

end CanvasExport.Props
