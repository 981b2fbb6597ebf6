import CanvasExport.CommandLine.Run
import CanvasExport.Proofs.Registry
/-!
# Declared descriptors

A document declares descriptors in a row, and may declare one again.  They have a registry exactly when
no tag is declared in two ways (`Registry.Consistent`), in whatever order and however often they are
declared.  It lists the first declaration of each tag (`Registry.firstDeclarations`), and otherwise the
first declaration that contradicts an earlier one is told (`Registry.IsFirstContradiction`).  The registry for a
run, with or without the default components, follows from it (`Document.registry?_declares`).
-/

namespace CanvasExport

namespace Registry

/-! ## Declarations -/

/-- No tag is declared in two ways. -/
def Consistent (ds : List Descriptor) : Prop := ∀ a ∈ ds, ∀ b ∈ ds, a.tag = b.tag → a = b

/-- The tag of the descriptor has been declared in another way. -/
def Contradicts (d : Descriptor) (earlier : List Descriptor) : Prop :=
  ∃ known ∈ earlier, known.tag = d.tag ∧ known ≠ d

/-- The descriptor is the first one in the list that contradicts an earlier one. -/
def IsFirstContradiction (ds : List Descriptor) (d : Descriptor) : Prop :=
  ∃ earlier later, ds = earlier ++ d :: later ∧ Contradicts d earlier ∧
    ∀ before other after, earlier = before ++ other :: after → ¬ Contradicts other before

/-- The first declaration of each tag, in the order of these. -/
def firstDeclarations (ds : List Descriptor) : List Descriptor :=
  (ds.map Descriptor.tag).eraseDups.filterMap fun tag => ds.find? (·.tag == tag)

/-- The first declaration of a tag is one of the declarations, and of the tag. -/
theorem mem_of_find?_tag {ds : List Descriptor} {tag : String} {d : Descriptor}
    (h : ds.find? (·.tag == tag) = some d) : d ∈ ds ∧ d.tag = tag :=
  ⟨List.mem_of_find?_eq_some h, eq_of_beq (List.find?_some h :)⟩

theorem consistent_nil : Consistent [] := fun _ ha => absurd ha List.not_mem_nil

/-- One more declaration is consistent with those before it unless it contradicts one of them. -/
theorem consistent_append_singleton {ds : List Descriptor} {d : Descriptor} :
    Consistent (ds ++ [d]) ↔ Consistent ds ∧ ¬ Contradicts d ds := by
  constructor
  · intro h
    refine ⟨fun a ha b hb => h a (List.mem_append_left _ ha) b (List.mem_append_left _ hb), ?_⟩
    rintro ⟨known, hknown, htag, hne⟩
    exact hne (h known (List.mem_append_left _ hknown) d (List.mem_append_right _ (by simp)) htag)
  · rintro ⟨h, hnot⟩ a ha b hb htag
    -- a declaration of the tag of `d` among the others is `d`
    have hsame (known) (hknown : known ∈ ds) (ht : known.tag = d.tag) : known = d := by
      by_contra hne
      exact hnot ⟨known, hknown, ht, hne⟩
    rcases List.mem_append.1 ha with ha | ha <;> rcases List.mem_append.1 hb with hb | hb
    · exact h a ha b hb htag
    · rw [List.mem_singleton.1 hb] at htag ⊢
      exact hsame a ha htag
    · rw [List.mem_singleton.1 ha] at htag ⊢
      exact (hsame b hb htag.symm).symm
    · rw [List.mem_singleton.1 ha, List.mem_singleton.1 hb]

/-- Declarations are consistent when none of them contradicts an earlier one. -/
theorem consistent_iff {ds : List Descriptor} :
    Consistent ds ↔
      ∀ before other after, ds = before ++ other :: after → ¬ Contradicts other before := by
  constructor
  · rintro h before other after rfl ⟨known, hknown, htag, hne⟩
    exact hne (h known (by simp [hknown]) other (by simp) htag)
  · intro h
    induction ds using List.reverseRecOn with
    | nil => exact consistent_nil
    | append_singleton ds d ih =>
        refine consistent_append_singleton.2 ⟨ih fun before other after hsplit => ?_, h ds d [] rfl⟩
        exact h before other (after ++ [d]) (by rw [hsplit]; simp)

/-- Among declarations that are not consistent one is the first to contradict an earlier one. -/
theorem exists_isFirstContradiction {ds : List Descriptor} (h : ¬ Consistent ds) :
    ∃ d, IsFirstContradiction ds d := by
  induction ds using List.reverseRecOn with
  | nil => exact absurd consistent_nil h
  | append_singleton ds d ih =>
      by_cases hds : Consistent ds
      · have hd : Contradicts d ds := by
          by_contra hnot
          exact h (consistent_append_singleton.2 ⟨hds, hnot⟩)
        exact ⟨d, ds, [], rfl, hd, consistent_iff.1 hds⟩
      · obtain ⟨e, earlier, later, rfl, he, hfirst⟩ := ih hds
        exact ⟨e, earlier, later ++ [d], by simp, he, hfirst⟩

/-! ## Registration in a row -/

/-- A registry lists for each of its tags the descriptor that the tag has. -/
theorem descriptors_eq_filterMap (r : Registry) : r.descriptors = r.tags.filterMap r.get? := by
  have hget (d) (hd : d ∈ r.descriptors) : r.get? d.tag = some d := by
    obtain ⟨e, he⟩ : ∃ e, r.get? d.tag = some e := by
      rw [← Option.ne_none_iff_exists', Ne, get?_eq_none_iff, not_not]
      exact List.mem_map_of_mem hd
    obtain ⟨hmem, htag⟩ := mem_of_find?_tag he
    rw [he, List.inj_on_of_nodup_map r.distinct hmem hd htag]
  have hall : r.descriptors.filterMap (r.get? ∘ Descriptor.tag) = r.descriptors.filterMap some :=
    List.filterMap_congr hget
  rw [tags, List.filterMap_map, hall, List.filterMap_some]

/-- The tag of an added descriptor has the first declaration of it. -/
theorem get?_foldl_empty (ds : List Descriptor) (tag : String) :
    (ds.foldl addMissing empty).get? tag = ds.find? (·.tag == tag) := by
  rw [get?_foldl_addMissing]
  exact Option.none_or

/-- What is added in a row to the empty registry are the first declarations. -/
theorem descriptors_foldl_empty (ds : List Descriptor) :
    (ds.foldl addMissing empty).descriptors = firstDeclarations ds := by
  have htags : (ds.foldl addMissing empty).tags = (ds.map Descriptor.tag).eraseDups :=
    tags_foldl_addMissing ds empty
  rw [descriptors_eq_filterMap, htags]
  exact List.filterMap_congr fun tag _ => get?_foldl_empty ds tag

/-- One more declaration is registered behind the others. -/
theorem ofList?_append_singleton (ds : List Descriptor) (d : Descriptor) :
    ofList? (ds ++ [d]) = ofList? ds >>= fun r => r.register? d := by
  rw [ofList?, List.foldlM_append]
  exact bind_congr fun r => bind_pure (r.register? d)

/-- **Consistent declarations have a registry**, which is the one they are added to in a row. -/
theorem ofList?_of_consistent {ds : List Descriptor} (h : Consistent ds) :
    ofList? ds = .ok (ds.foldl addMissing empty) := by
  induction ds using List.reverseRecOn with
  | nil => rfl
  | append_singleton ds d ih =>
      obtain ⟨hds, hd⟩ := consistent_append_singleton.1 h
      rw [ofList?_append_singleton, ih hds, List.foldl_concat]
      show register? (ds.foldl addMissing empty) d = _
      refine register?_of_eq fun known hknown => ?_
      rw [get?_foldl_empty] at hknown
      obtain ⟨hmem, htag⟩ := mem_of_find?_tag hknown
      by_contra hne
      exact hd ⟨known, hmem, htag, hne⟩

/-- **The first contradiction is told** by its tag, and nothing behind it is looked at. -/
theorem ofList?_of_isFirstContradiction {ds : List Descriptor} {d : Descriptor}
    (h : IsFirstContradiction ds d) : ofList? ds = .error ⟨d.tag⟩ := by
  obtain ⟨earlier, later, rfl, ⟨known, hmem, htag, hne⟩, hfirst⟩ := h
  have hearlier := consistent_iff.2 hfirst
  -- the declaration that the registry has is the contradicted one
  have hget : (earlier.foldl addMissing empty).get? d.tag = some known := by
    rw [get?_foldl_empty]
    cases hfind : earlier.find? (·.tag == d.tag) with
    | none => exact absurd (beq_iff_eq.2 htag) (List.find?_eq_none.1 hfind known hmem)
    | some other =>
        obtain ⟨hother, hothertag⟩ := mem_of_find?_tag hfind
        rw [hearlier other hother known hmem (hothertag.trans htag.symm)]
  have hregister : (earlier.foldl addMissing empty).register? d = .error ⟨d.tag⟩ :=
    register?_of_ne hget hne
  have hrun : ofList? (earlier ++ d :: later) =
      ofList? earlier >>= fun r => r.register? d >>= fun r => later.foldlM register? r := by
    rw [ofList?, List.foldlM_append]
    rfl
  rw [hrun, ofList?_of_consistent hearlier]
  show (register? _ d >>= fun r => later.foldlM register? r) = _
  rw [hregister]
  rfl

/-- There is a registry exactly of consistent declarations. -/
theorem ofList?_eq_ok_iff {ds : List Descriptor} {r : Registry} :
    ofList? ds = .ok r ↔ Consistent ds ∧ ds.foldl addMissing empty = r := by
  by_cases h : Consistent ds
  · rw [ofList?_of_consistent h]
    simp [h]
  · obtain ⟨d, hd⟩ := exists_isFirstContradiction h
    rw [ofList?_of_isFirstContradiction hd]
    simp [h]

/-- There is none exactly where there is a first contradiction, which is told. -/
theorem ofList?_eq_error_iff {ds : List Descriptor} {e : DescriptorConflict} :
    ofList? ds = .error e ↔ ∃ d, IsFirstContradiction ds d ∧ e = ⟨d.tag⟩ := by
  constructor
  · intro h
    have hnot : ¬ Consistent ds := by
      intro hds
      rw [ofList?_of_consistent hds] at h
      cases h
    obtain ⟨d, hd⟩ := exists_isFirstContradiction hnot
    rw [ofList?_of_isFirstContradiction hd] at h
    exact ⟨d, hd, (Except.error.inj h).symm⟩
  · rintro ⟨d, hd, rfl⟩
    exact ofList?_of_isFirstContradiction hd

/-- The tags of the first declarations are those of the declarations. -/
theorem mem_tags_foldl_empty {ds : List Descriptor} {tag : String} :
    tag ∈ (ds.foldl addMissing empty).tags ↔ tag ∈ ds.map Descriptor.tag := by
  rw [tags_foldl_addMissing, List.mem_eraseDups]
  rfl

end Registry

/-! ## Documents -/

namespace Document

open CommandLine Registry

/-- The declarations of a document are consistent where it has a registry. -/
theorem exists_registry?_iff (d : Document) :
    (∃ r, d.registry? = .ok r) ↔ Consistent d.descriptors := by
  unfold registry?
  simp only [ofList?_eq_ok_iff]
  exact ⟨fun ⟨_, h, _⟩ => h, fun h => ⟨_, h, rfl⟩⟩

/-- **What the registry of a document declares.**  There is one exactly where no tag is declared in two
ways, which neither the order of the declarations nor how often each of them is there has a part in.  It
lists the first declaration of each tag, in order; where there is none the tag of the first declaration
that contradicts an earlier one is told.  The registry for a run fails alike.  It lists the same
declarations, and with presets behind them those default components whose tags are not declared. -/
theorem registry?_declares (d : Document) :
    ((∃ r, d.registry? = .ok r) ↔ Consistent d.descriptors) ∧
    (∀ other : Document, (∀ x, x ∈ other.descriptors ↔ x ∈ d.descriptors) →
      ((∃ r, other.registry? = .ok r) ↔ ∃ r, d.registry? = .ok r)) ∧
    (∀ e, d.registry? = .error e ↔ ∃ x, IsFirstContradiction d.descriptors x ∧ e = ⟨x.tag⟩) ∧
    (∀ withPresets e, registryFor d withPresets = .error e ↔ d.registry? = .error e) ∧
    ∀ r, d.registry? = .ok r → r.descriptors = firstDeclarations d.descriptors ∧
      registryFor d false = .ok r ∧
      ∃ all, registryFor d true = .ok all ∧ all.descriptors = r.descriptors ++
        launchDescriptors.filter (·.tag ∉ d.descriptors.map Descriptor.tag) := by
  refine ⟨d.exists_registry?_iff, fun other hsame => ?_, fun e => ofList?_eq_error_iff,
    fun withPresets e => ?_, fun r hr => ?_⟩
  · rw [exists_registry?_iff, exists_registry?_iff]
    simp only [Consistent, hsame]
  · unfold registryFor
    cases d.registry? with
    | error e' => rfl
    | ok r =>
        constructor
        · intro h
          cases h
        · intro h
          cases h
  · obtain ⟨-, hfold⟩ := ofList?_eq_ok_iff.1 hr
    refine ⟨hfold ▸ descriptors_foldl_empty _, ?_, r.merge launch, ?_, ?_⟩
    · rw [registryFor, hr]
      rfl
    · rw [registryFor, hr]
      rfl
    · rw [descriptors_merge, ← hfold]
      simp only [mem_tags_foldl_empty]
      rfl

end Document

end CanvasExport
