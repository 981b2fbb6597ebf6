import CanvasExport.Document
import Mathlib.Data.List.Basic
/-!
# Pages in the tree of a document

A document is visited in document order, each node behind the nodes that it lies in.  The search for
pages finds exactly the visits of a page that lies in no page, in this order
(`Document.pages_eq_outermostPages`).
-/

namespace CanvasExport

namespace Node

/-! ## Visits -/

mutual

/-- The nodes in the tree of a node in document order, each with the nodes it lies in, the innermost
first; the node itself lies in those above. -/
def visits : List Node → Node → List (List Node × Node)
  | above, n@⟨_, _, _, _, _, _, _, children⟩ => (above, n) :: visitsAll (n :: above) children

/-- The nodes in the trees of a list in document order, each with the nodes it lies in. -/
def visitsAll : List Node → List Node → List (List Node × Node)
  | _, [] => []
  | above, n :: ns => visits above n ++ visitsAll above ns

end

/-- The trees of a list are visited one after the other. -/
theorem visitsAll_eq_flatMap (above ns : List Node) :
    visitsAll above ns = ns.flatMap (visits above) := by
  induction ns with
  | nil => rfl
  | cons n ns ih => rw [visitsAll, ih, List.flatMap_cons]

/-- A node is visited in front of the trees of its children. -/
theorem visits_eq (above : List Node) (n : Node) :
    n.visits above = (above, n) :: n.children.flatMap (visits (n :: above)) := by
  rw [← visitsAll_eq_flatMap]
  cases n
  rw [visits]

/-- A child weighs less than its node. -/
theorem weight_lt_of_mem_children {n c : Node} (h : c ∈ n.children) : c.weight < n.weight := by
  obtain ⟨before, after, hsplit⟩ := List.append_of_mem h
  rw [weight_eq n, hsplit, weights_append, weights]
  omega

/-- What a node has when its children have it, every node has. -/
theorem children_induction {P : Node → Prop} (h : ∀ n : Node, (∀ c ∈ n.children, P c) → P n)
    (n : Node) : P n :=
  h n fun c _ => children_induction h c
termination_by n.weight
decreasing_by exact weight_lt_of_mem_children ‹c ∈ n.children›

/-! ## Pages that lie in no page -/

/-- A node is a page, and lies in no page. -/
def IsOutermostPage (visit : List Node × Node) : Prop :=
  visit.2.kind = .page ∧ ∀ a ∈ visit.1, a.kind ≠ .page

instance : DecidablePred IsOutermostPage := fun _ => inferInstanceAs (Decidable (_ ∧ _))

/-- The pages in the tree of a node that lie in no page, in document order. -/
def outermostPages (above : List Node) (n : Node) : List Node :=
  ((n.visits above).filter IsOutermostPage).map Prod.snd

/-- They are those of the children behind the node, if that is one. -/
theorem outermostPages_eq (above : List Node) (n : Node) :
    n.outermostPages above =
      (if IsOutermostPage (above, n) then [n] else []) ++
        n.children.flatMap (outermostPages (n :: above)) := by
  unfold outermostPages
  rw [visits_eq, List.filter_cons, List.filter_flatMap]
  by_cases h : IsOutermostPage (above, n)
  · simp [h, List.map_flatMap]
  · simp [h, List.map_flatMap]

/-- Nothing that lies in a page is one of them. -/
theorem outermostPages_eq_nil_of_page_above {a : Node} (ha : a.kind = .page) (n : Node) :
    ∀ above, a ∈ above → n.outermostPages above = [] := by
  -- for all nodes above at once, since a child has one more above it
  induction n using children_induction with
  | h n ih =>
      intro above hmem
      have hnot : ¬ IsOutermostPage (above, n) := fun h => h.2 a hmem ha
      rw [outermostPages_eq, if_neg hnot, List.nil_append, List.flatMap_eq_nil_iff]
      exact fun c hc => ih c hc _ (List.mem_cons_of_mem n hmem)

/-- A page that lies in no page is the only one in its tree. -/
theorem outermostPages_of_page {n : Node} (hn : n.kind = .page) {above : List Node}
    (habove : ∀ a ∈ above, a.kind ≠ .page) : n.outermostPages above = [n] := by
  have hbelow : n.children.flatMap (outermostPages (n :: above)) = [] := by
    rw [List.flatMap_eq_nil_iff]
    exact fun c _ => outermostPages_eq_nil_of_page_above hn c _ List.mem_cons_self
  rw [outermostPages_eq, if_pos ⟨hn, habove⟩, hbelow, List.append_nil]

/-- It does not matter which nodes lie above, as long as no page does. -/
theorem outermostPages_eq_of_no_page_above (n : Node) :
    ∀ above, (∀ a ∈ above, a.kind ≠ .page) → n.outermostPages above = n.outermostPages [] := by
  induction n using children_induction with
  | h n ih =>
      intro above habove
      by_cases hn : n.kind = .page
      · -- the search ends here, on either side
        rw [outermostPages_of_page hn habove, outermostPages_of_page hn (List.forall_mem_nil _)]
      · -- the node itself lies above its children, and it is no page
        have hnot (above : List Node) : ¬ IsOutermostPage (above, n) := fun h => hn h.1
        have hbelow (above : List Node) (habove : ∀ a ∈ above, a.kind ≠ .page) :
            n.children.flatMap (outermostPages (n :: above)) =
              n.children.flatMap (outermostPages []) := by
          refine List.flatMap_congr fun c hc => ih c hc (n :: above) ?_
          exact List.forall_mem_cons.2 ⟨hn, habove⟩
        rw [outermostPages_eq, outermostPages_eq [], if_neg (hnot above), if_neg (hnot []),
          hbelow above habove, hbelow [] (List.forall_mem_nil _)]

/-- In the tree of a node that is no page they are those of its children. -/
theorem outermostPages_of_not_page {n : Node} (hn : n.kind ≠ .page) :
    n.outermostPages [] = n.children.flatMap (outermostPages []) := by
  have hnot : ¬ IsOutermostPage ([], n) := fun h => hn h.1
  rw [outermostPages_eq, if_neg hnot, List.nil_append]
  refine List.flatMap_congr fun c _ => outermostPages_eq_of_no_page_above c [n] ?_
  exact List.forall_mem_cons.2 ⟨hn, List.forall_mem_nil _⟩

end Node

namespace Document

/-! ## The search -/

/-- The search finds the pages of the pending trees that lie in no page. -/
theorem searchPages_eq_flatMap (pending : List Node) :
    searchPages pending = pending.flatMap (Node.outermostPages []) := by
  -- the cases are the moves of the search: nothing is pending, a page, any other node
  induction pending using searchPages.induct with
  | case1 => rw [searchPages, List.flatMap_nil]
  | case2 n pending hn ih =>
      rw [searchPages, if_pos hn, ih, List.flatMap_cons,
        Node.outermostPages_of_page hn (List.forall_mem_nil _)]
      rfl
  | case3 n pending hn ih =>
      rw [searchPages, if_neg hn, ih, List.flatMap_append, List.flatMap_cons,
        Node.outermostPages_of_not_page hn]

/-- The nodes of a document in document order, each with the nodes it lies in. -/
def visits (d : Document) : List (List Node × Node) := d.roots.flatMap (Node.visits [])

/-- The page nodes of a document that lie in no page node, in document order. -/
def outermostPages (d : Document) : List Node :=
  (d.visits.filter Node.IsOutermostPage).map Prod.snd

/-- The pages of a document are those that lie in no page. -/
theorem pages_eq_outermostPages (d : Document) : d.pages = d.outermostPages := by
  rw [pages, searchPages_eq_flatMap, outermostPages, visits, List.filter_flatMap,
    List.map_flatMap]
  rfl

/-- They are page nodes. -/
theorem kind_of_mem_pages {d : Document} {n : Node} (h : n ∈ d.pages) : n.kind = .page := by
  rw [pages_eq_outermostPages, outermostPages, List.mem_map] at h
  obtain ⟨visit, hvisit, rfl⟩ := h
  have houtermost : Node.IsOutermostPage visit := of_decide_eq_true (List.mem_filter.1 hvisit).2
  exact houtermost.1

/-- Where only pages are pending they are found as they are. -/
theorem searchPages_eq_self {ns : List Node} (h : ∀ n ∈ ns, n.kind = .page) :
    searchPages ns = ns := by
  induction ns with
  | nil => rw [searchPages]
  | cons n ns ih =>
      obtain ⟨hn, hns⟩ := List.forall_mem_cons.1 h
      rw [searchPages, if_pos hn, ih hns]

end Document

end CanvasExport
