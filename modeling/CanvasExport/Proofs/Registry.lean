import CanvasExport.Descriptor
import CanvasExport.Proofs.Dict
/-!
# Registries as ordered unions

A registry grows by registrations and merges, and either adds descriptors behind those that are there:
each one whose tag is new, in order (`callAll_eq_foldl`).  A registration that is refused leaves the
registry as it was (`run_register_cases`).  So the tags of a registry are those that it was offered,
each at its first place and with the first descriptor offered for it, and merging is a union of ordered
lists that prefers what is on its left (`Registry.isOrderedUnion`).
-/

namespace CanvasExport.Registry

/-! ## Tags -/

/-- The tags in the order of their registration. -/
def tags (r : Registry) : List String := r.descriptors.map Descriptor.tag

/-- The tags without descriptor are those that are not listed. -/
theorem get?_eq_none_iff {r : Registry} {tag : String} : r.get? tag = none ↔ tag ∉ r.tags := by
  refine ⟨tag_notMem_of_get?_eq_none, fun h => ?_⟩
  rw [get?, List.find?_eq_none]
  intro d hd htag
  exact h (eq_of_beq htag ▸ List.mem_map_of_mem hd)

/-! ## One descriptor more -/

/-- A descriptor with a new tag is pushed. -/
theorem addMissing_of_new {r : Registry} {d : Descriptor} (h : r.get? d.tag = none) :
    r.addMissing d = r.push d h := by
  unfold addMissing
  split
  · rfl
  · rename_i known hknown
    rw [h] at hknown
    cases hknown

/-- A descriptor with a known tag adds nothing. -/
theorem addMissing_eq_self {r : Registry} {d known : Descriptor} (h : r.get? d.tag = some known) :
    r.addMissing d = r := by
  unfold addMissing
  split
  · rename_i hnew
    rw [hnew] at h
    cases h
  · rfl

/-- So the descriptors are those that were there, with one at the end if its tag is new. -/
theorem descriptors_addMissing (r : Registry) (d : Descriptor) :
    (r.addMissing d).descriptors =
      if d.tag ∈ r.tags then r.descriptors else r.descriptors ++ [d] := by
  cases h : r.get? d.tag with
  | none =>
      rw [addMissing_of_new h, if_neg (get?_eq_none_iff.1 h)]
      rfl
  | some known =>
      have hmem : d.tag ∈ r.tags := by
        by_contra hnot
        rw [get?_eq_none_iff.2 hnot] at h
        cases h
      rw [addMissing_eq_self h, if_pos hmem]

/-- The tags are those that were there, with its tag at the end if that is new. -/
theorem tags_addMissing (r : Registry) (d : Descriptor) :
    (r.addMissing d).tags = if d.tag ∈ r.tags then r.tags else r.tags ++ [d.tag] := by
  rw [tags, descriptors_addMissing]
  split
  · rfl
  · rw [List.map_append]
    rfl

/-! ## Descriptors in a row -/

/-- The descriptors that are there stay in front. -/
theorem prefix_foldl_addMissing (ds : List Descriptor) (r : Registry) :
    r.descriptors <+: (ds.foldl addMissing r).descriptors := by
  induction ds generalizing r with
  | nil => exact List.prefix_rfl
  | cons d ds ih =>
      refine List.IsPrefix.trans ?_ (ih (r.addMissing d))
      rw [descriptors_addMissing]
      split
      · exact List.prefix_rfl
      · exact List.prefix_append _ _

/-- The tags are those that were there and those offered, each at its first place. -/
theorem tags_foldl_addMissing (ds : List Descriptor) (r : Registry) :
    (ds.foldl addMissing r).tags = (r.tags ++ ds.map Descriptor.tag).eraseDups :=
  Dict.keys_foldl_eq_eraseDups tags_addMissing r.distinct ds

/-- Descriptors of different tags are added at the end, less those of known tags. -/
theorem descriptors_foldl_addMissing {ds : List Descriptor} (hds : DistinctTags ds)
    (r : Registry) :
    (ds.foldl addMissing r).descriptors = r.descriptors ++ ds.filter (·.tag ∉ r.tags) := by
  induction ds generalizing r with
  | nil => rw [List.foldl_nil, List.filter_nil, List.append_nil]
  | cons d ds ih =>
      obtain ⟨hd, hds⟩ := List.nodup_cons.1 hds
      rw [List.foldl_cons, ih hds, descriptors_addMissing, tags_addMissing]
      by_cases hknown : d.tag ∈ r.tags
      · simp [hknown]
      · -- none of the others has the tag that is known now
        have hfilter : ds.filter (·.tag ∉ r.tags ++ [d.tag]) = ds.filter (·.tag ∉ r.tags) := by
          refine List.filter_congr fun e he => ?_
          have hne : e.tag ≠ d.tag := fun h => hd (h ▸ List.mem_map_of_mem he)
          simp [hne]
        simp only [if_neg hknown, hfilter]
        simp [hknown]

/-! ## Calls -/

/-- What is done with a registry. -/
inductive Call
  /-- A descriptor is registered. -/
  | register (d : Descriptor)
  /-- Another registry is merged in. -/
  | merge (other : Registry)

/-- The descriptors that a call offers. -/
def Call.offered : Call → List Descriptor
  | register d => [d]
  | merge other => other.descriptors

/-- The registry after a call, also after a registration that is refused. -/
def call (r : Registry) : Call → Registry
  | .register d => ((register d).run.run r).2
  | .merge other => r.merge other

/-- A registration looks at the registry that it runs on. -/
theorem run_get (r : Registry) :
    (get : ExceptT DescriptorConflict (StateM Registry) Registry).run.run r = pure (.ok r, r) := rfl

/-- A registration is refused where the tag has another descriptor, and leaves the registry as it
was. -/
theorem run_register_of_ne {r : Registry} {d known : Descriptor} (h : r.get? d.tag = some known)
    (hne : known ≠ d) : (register d).run.run r = (.error ⟨d.tag⟩, r) := by
  rw [register, ExceptT.run_bind, StateT.run_bind, run_get, pure_bind]
  dsimp only
  split
  · rename_i hnew
    rw [hnew] at h
    cases h
  · rename_i other hother
    rw [hother] at h
    cases h
    rw [if_pos hne]
    rfl

/-- Otherwise it adds the descriptor, unless that is known. -/
theorem run_register_of_eq {r : Registry} {d : Descriptor}
    (h : ∀ known, r.get? d.tag = some known → known = d) :
    (register d).run.run r = (.ok (), r.addMissing d) := by
  rw [register, ExceptT.run_bind, StateT.run_bind, run_get, pure_bind]
  dsimp only
  split
  · rename_i hnew
    rw [addMissing_of_new hnew]
    rfl
  · rename_i known hknown
    rw [addMissing_eq_self hknown, if_neg (not_not.2 (h known hknown))]
    rfl

/-- What becomes of a registration is a matter of the descriptor that the tag has. -/
theorem run_register_cases (r : Registry) (d : Descriptor) :
    ((∃ known, r.get? d.tag = some known ∧ known ≠ d) ∧
        (register d).run.run r = (.error ⟨d.tag⟩, r)) ∨
      (∀ known, r.get? d.tag = some known → known = d) ∧
        (register d).run.run r = (.ok (), r.addMissing d) := by
  by_cases h : ∃ known, r.get? d.tag = some known ∧ known ≠ d
  · obtain ⟨known, hknown, hne⟩ := h
    exact .inl ⟨⟨known, hknown, hne⟩, run_register_of_ne hknown hne⟩
  · have hsame : ∀ known, r.get? d.tag = some known → known = d := by
      intro known hknown
      by_contra hne
      exact h ⟨known, hknown, hne⟩
    exact .inr ⟨hsame, run_register_of_eq hsame⟩

theorem register?_of_ne {r : Registry} {d known : Descriptor} (h : r.get? d.tag = some known)
    (hne : known ≠ d) : r.register? d = .error ⟨d.tag⟩ := by
  rw [register?, run_register_of_ne h hne]

theorem register?_of_eq {r : Registry} {d : Descriptor}
    (h : ∀ known, r.get? d.tag = some known → known = d) :
    r.register? d = .ok (r.addMissing d) := by
  rw [register?, run_register_of_eq h]

/-- A registration is refused where the tag has another descriptor. -/
theorem register?_eq_error_iff {r : Registry} {d : Descriptor} :
    (∃ e, r.register? d = .error e) ↔ ∃ known, r.get? d.tag = some known ∧ known ≠ d := by
  rw [register?]
  rcases run_register_cases r d with ⟨hother, hrun⟩ | ⟨hsame, hrun⟩
  · rw [hrun]
    exact iff_of_true ⟨_, rfl⟩ hother
  · rw [hrun]
    constructor
    · rintro ⟨e, h⟩
      cases h
    · rintro ⟨known, hknown, hne⟩
      exact absurd (hsame known hknown) hne

/-- A registration that is refused leaves the registry as it was. -/
theorem eq_of_run_register_eq_error {r after : Registry} {d : Descriptor} {e : DescriptorConflict}
    (h : (register d).run.run r = (.error e, after)) : after = r := by
  rcases run_register_cases r d with ⟨-, hrun⟩ | ⟨-, hrun⟩
  · exact (Prod.mk.inj (h.symm.trans hrun)).2
  · cases (Prod.mk.inj (h.symm.trans hrun)).1

/-- One that is accepted adds the descriptor, unless that is known. -/
theorem eq_of_run_register_eq_ok {r after : Registry} {d : Descriptor}
    (h : (register d).run.run r = (.ok (), after)) : after = r.addMissing d := by
  rcases run_register_cases r d with ⟨-, hrun⟩ | ⟨-, hrun⟩
  · cases (Prod.mk.inj (h.symm.trans hrun)).1
  · exact (Prod.mk.inj (h.symm.trans hrun)).2

/-- A registration adds the descriptor of a new tag, and nothing else. -/
theorem call_register (r : Registry) (d : Descriptor) : r.call (.register d) = r.addMissing d := by
  rcases run_register_cases r d with ⟨⟨known, hknown, -⟩, hrun⟩ | ⟨-, hrun⟩
  · rw [call, hrun, addMissing_eq_self hknown]
  · rw [call, hrun]

/-- A call adds what it offers. -/
theorem call_eq_foldl (r : Registry) (c : Call) : r.call c = c.offered.foldl addMissing r := by
  cases c with
  | register d => exact r.call_register d
  | merge other => rfl

/-- The registry after calls in a row. -/
def callAll (r : Registry) (calls : List Call) : Registry := calls.foldl call r

/-- Calls in a row add what they offer, in order. -/
theorem callAll_eq_foldl (r : Registry) (calls : List Call) :
    r.callAll calls = (calls.flatMap Call.offered).foldl addMissing r := by
  induction calls generalizing r with
  | nil => rfl
  | cons c calls ih =>
      rw [List.flatMap_cons, List.foldl_append, ← call_eq_foldl]
      exact ih (r.call c)

/-- What was there before some of the calls is in front of what is there after all of them. -/
theorem prefix_callAll_append (r : Registry) (first more : List Call) :
    (r.callAll first).descriptors <+: (r.callAll (first ++ more)).descriptors := by
  have hsplit : r.callAll (first ++ more) = (r.callAll first).callAll more := List.foldl_append
  rw [hsplit, callAll_eq_foldl (r.callAll first)]
  exact prefix_foldl_addMissing _ _

/-! ## Merging -/

/-- The descriptors of the other registry are added at the end, less those of known tags. -/
theorem descriptors_merge (r other : Registry) :
    (r.merge other).descriptors =
      r.descriptors ++ other.descriptors.filter (·.tag ∉ r.tags) :=
  descriptors_foldl_addMissing other.distinct r

theorem mem_tags_merge {r other : Registry} {tag : String} :
    tag ∈ (r.merge other).tags ↔ tag ∈ r.tags ∨ tag ∈ other.tags := by
  rw [merge, tags_foldl_addMissing, List.mem_eraseDups, List.mem_append]
  rfl

/-- A merge adds the tags that are missing. -/
theorem mergeCount_eq (r other : Registry) :
    r.mergeCount other = (other.tags.filter (· ∉ r.tags)).length := by
  have hmissing : other.tags.filter (· ∉ r.tags) =
      (other.descriptors.filter (·.tag ∉ r.tags)).map Descriptor.tag := List.filter_map
  rw [mergeCount, size, size, descriptors_merge, List.length_append, Nat.add_sub_cancel_left,
    hmissing, List.length_map]

/-- Merging is associative: a descriptor of the last registry is added where neither of the others has
its tag. -/
theorem merge_assoc (r s t : Registry) : (r.merge s).merge t = r.merge (s.merge t) := by
  apply ext
  have hfilter : t.descriptors.filter (·.tag ∉ (r.merge s).tags) =
      (t.descriptors.filter (·.tag ∉ s.tags)).filter (·.tag ∉ r.tags) := by
    rw [List.filter_filter]
    refine List.filter_congr fun d _ => ?_
    simp [mem_tags_merge]
  rw [descriptors_merge (r.merge s), descriptors_merge r (s.merge t), descriptors_merge r s,
    descriptors_merge s t, hfilter, List.filter_append, List.append_assoc]

theorem merge_empty (r : Registry) : r.merge .empty = r := rfl

theorem empty_merge (r : Registry) : Registry.empty.merge r = r := by
  apply ext
  rw [descriptors_merge]
  simp [tags, empty]

/-- Once a registry is merged in, nothing of it is missing. -/
theorem mergeCount_merge_self (r s : Registry) : (r.merge s).mergeCount s = 0 := by
  rw [mergeCount_eq, List.length_eq_zero_iff, List.filter_eq_nil_iff]
  intro tag htag
  simp [mem_tags_merge, htag]

/-! ## Registries of a session -/

/-- **A registry is an ordered union of what it was offered.**  After any calls its tags are pairwise
distinct, it lists the tags that it was offered in the order in which they first came, each with the
first descriptor offered for it, and what was there after fewer calls is in front.  A registration is
refused exactly where the tag has another descriptor, and then it leaves the registry as it was; one
that is accepted puts a descriptor with a new tag at the end.  Merging prefers the left registry, adds
what that lacks, is associative, has the empty registry as its unit, and adds nothing the second
time. -/
theorem isOrderedUnion (r : Registry) :
    (∀ calls, (r.callAll calls).descriptors.Pairwise (fun a b => a.tag ≠ b.tag) ∧
      (r.callAll calls).tags =
        ((r.descriptors ++ calls.flatMap Call.offered).map Descriptor.tag).eraseDups ∧
      ∀ tag, (r.callAll calls).get? tag =
        (r.get? tag).or ((calls.flatMap Call.offered).find? (·.tag == tag))) ∧
    (∀ first more, (r.callAll first).descriptors <+: (r.callAll (first ++ more)).descriptors) ∧
    (∀ d, ((∃ e, r.register? d = .error e) ↔ ∃ known, r.get? d.tag = some known ∧ known ≠ d) ∧
      (∀ e after, (register d).run.run r = (.error e, after) →
        r.register? d = .error e ∧ after = r) ∧
      ∀ after, (register d).run.run r = (.ok (), after) →
        r.register? d = .ok after ∧
          after.descriptors = if d.tag ∈ r.tags then r.descriptors else r.descriptors ++ [d]) ∧
    (∀ s, (∀ tag, (r.merge s).get? tag = (r.get? tag).or (s.get? tag)) ∧
      (r.merge s).descriptors = r.descriptors ++ s.descriptors.filter (·.tag ∉ r.tags) ∧
      r.mergeCount s = (s.tags.filter (· ∉ r.tags)).length ∧
      (r.merge s).mergeCount s = 0 ∧
      ∀ t, (r.merge s).merge t = r.merge (s.merge t)) ∧
    r.merge .empty = r ∧ Registry.empty.merge r = r := by
  refine ⟨fun calls => ⟨List.pairwise_map.1 (r.callAll calls).distinct, ?_, fun tag => ?_⟩,
    r.prefix_callAll_append, fun d => ⟨register?_eq_error_iff, ?_, ?_⟩,
    fun s => ⟨r.get?_merge s, r.descriptors_merge s, r.mergeCount_eq s, r.mergeCount_merge_self s,
      r.merge_assoc s⟩,
    r.merge_empty, r.empty_merge⟩
  · rw [callAll_eq_foldl, tags_foldl_addMissing, List.map_append]
    rfl
  · rw [callAll_eq_foldl, get?_foldl_addMissing]
  · intro e after h
    refine ⟨?_, eq_of_run_register_eq_error h⟩
    rw [register?, h]
  · intro after h
    constructor
    · rw [register?, h]
    · rw [eq_of_run_register_eq_ok h, descriptors_addMissing]

end CanvasExport.Registry
