import CanvasExport.Proofs.Pages
/-!
# The search for pages and their places

A place in a document is a list of indices: that of a top-level node, and of a child in each node on the
way down.  The pages of a document are searched with a stack, move by move (`PageSearch`), and each move
keeps what is to be found (`PageSearch.outcome_of_next?`) and leaves fewer nodes
(`PageSearch.weights_lt_of_next?`).  So the search ends, with the pages that recursion gives; these stand
at the places of a page with no page above it, and nowhere else, in the order of the places
(`Document.search_finds_outermost_pages`).
-/

namespace CanvasExport

/-! ## Pages by recursion -/

namespace Node

mutual

/-- The pages met from a node downwards: the node itself if it is one, and else those met from its
children. -/
def pageRoots : Node → List Node
  | n@⟨_, kind, _, _, _, _, _, children⟩ => if kind = .page then [n] else pageRootsAll children

/-- The pages met from the nodes of a list downwards. -/
def pageRootsAll : List Node → List Node
  | [] => []
  | n :: ns => pageRoots n ++ pageRootsAll ns

end

/-- The nodes of a list are met one after the other. -/
theorem pageRootsAll_eq_flatMap (ns : List Node) : pageRootsAll ns = ns.flatMap pageRoots := by
  induction ns with
  | nil => rfl
  | cons n ns ih => rw [pageRootsAll, ih, List.flatMap_cons]

theorem pageRoots_eq (n : Node) :
    n.pageRoots = if n.kind = .page then [n] else n.children.flatMap pageRoots := by
  rw [← pageRootsAll_eq_flatMap]
  cases n
  rw [pageRoots]

/-- They are the pages in the tree of the node that lie in no page. -/
theorem pageRoots_eq_outermostPages (n : Node) : n.pageRoots = n.outermostPages [] := by
  induction n using children_induction with
  | h n ih =>
      rw [pageRoots_eq]
      split
      · rename_i hn
        rw [outermostPages_of_page hn (List.forall_mem_nil _)]
      · rename_i hn
        rw [outermostPages_of_not_page hn]
        exact List.flatMap_congr ih

/-- The order of the nodes does not matter for their weight. -/
theorem weights_reverse (ns : List Node) : weights ns.reverse = weights ns := by
  induction ns with
  | nil => rfl
  | cons n ns ih =>
      rw [List.reverse_cons, weights_append, ih, weights, weights, weights]
      omega

end Node

/-! ## The search, move by move -/

/-- A search for pages on its way. -/
structure PageSearch where
  /-- The nodes that are still to be looked at; the last one is next. -/
  stack : List Node
  /-- The pages found so far. -/
  found : List Node

namespace PageSearch

/-- The search at its start: the first of the nodes is next. -/
def start (ns : List Node) : PageSearch := ⟨ns.reverse, []⟩

/-- One move: the last node is taken off the stack, and if it is no page its children are put there, the
first one last.  Without nodes there is no move. -/
def next? (s : PageSearch) : Option PageSearch :=
  s.stack.getLast?.map fun n =>
    if n.kind = .page then ⟨s.stack.dropLast, s.found ++ [n]⟩
    else ⟨s.stack.dropLast ++ n.children.reverse, s.found⟩

/-- The search after so many moves, or fewer if there are no more. -/
def after (s : PageSearch) : Nat → PageSearch
  | 0 => s
  | moves + 1 =>
      match s.next? with
      | some s' => s'.after moves
      | none => s

/-- What is found in the end: the pages found so far, and those met from the nodes on the stack, the last
one first. -/
def outcome (s : PageSearch) : List Node := s.found ++ s.stack.reverse.flatMap Node.pageRoots

variable {s s' : PageSearch}

/-- A move takes a page that is next, or puts children in the place of a node that is none. -/
theorem next?_eq_some_iff : s.next? = some s' ↔ ∃ below n, s.stack = below ++ [n] ∧
    s' = if n.kind = .page then ⟨below, s.found ++ [n]⟩ else ⟨below ++ n.children.reverse, s.found⟩ := by
  rw [next?, Option.map_eq_some_iff]
  constructor
  · rintro ⟨n, hlast, rfl⟩
    exact ⟨s.stack.dropLast, n, (List.dropLast_append_getLast? n hlast).symm, rfl⟩
  · rintro ⟨below, n, hstack, rfl⟩
    refine ⟨n, ?_, ?_⟩
    · rw [hstack, List.getLast?_concat]
    · rw [hstack, List.dropLast_concat]

/-- The search is over when no node is left. -/
theorem next?_eq_none_iff : s.next? = none ↔ s.stack = [] := by
  rw [next?, Option.map_eq_none_iff, List.getLast?_eq_none_iff]

/-- **A move keeps what is found in the end.** -/
theorem outcome_of_next? (h : s.next? = some s') : s'.outcome = s.outcome := by
  obtain ⟨below, n, hstack, rfl⟩ := next?_eq_some_iff.1 h
  have hnext : s.outcome = s.found ++ (n.pageRoots ++ below.reverse.flatMap Node.pageRoots) := by
    rw [outcome, hstack, List.reverse_concat, List.flatMap_cons]
  rw [hnext, Node.pageRoots_eq]
  split
  · rw [outcome, List.append_assoc]
  · rw [outcome, List.reverse_append, List.reverse_reverse, List.flatMap_append]

/-- **A move leaves fewer nodes** in the trees on the stack. -/
theorem weights_lt_of_next? (h : s.next? = some s') :
    Node.weights s'.stack < Node.weights s.stack := by
  obtain ⟨below, n, hstack, rfl⟩ := next?_eq_some_iff.1 h
  have hlast : Node.weights s.stack = Node.weights below + (1 + Node.weights n.children) := by
    rw [hstack, Node.weights_append, Node.weights, Node.weight_eq]
    rfl
  split
  · rw [hlast]
    dsimp only
    omega
  · rw [hlast]
    dsimp only
    rw [Node.weights_append, Node.weights_reverse]
    omega

/-- Where no node is left everything is found. -/
theorem eq_of_next?_eq_none (h : s.next? = none) : s = ⟨[], s.outcome⟩ := by
  have hempty := next?_eq_none_iff.1 h
  cases s
  subst hempty
  simp [outcome]

/-- After as many moves as there are nodes the search is over, and everything is found. -/
theorem after_eq {moves : Nat} (h : Node.weights s.stack ≤ moves) :
    s.after moves = ⟨[], s.outcome⟩ := by
  -- the stack may grow, but the trees on it have fewer nodes with each move
  induction moves generalizing s with
  | zero =>
      cases hnext : s.next? with
      | none => exact eq_of_next?_eq_none hnext
      | some s' => exact absurd (weights_lt_of_next? hnext) (by omega)
  | succ moves ih =>
      rw [after]
      cases hnext : s.next? with
      | none => exact eq_of_next?_eq_none hnext
      | some s' =>
          have hless := weights_lt_of_next? hnext
          rw [← outcome_of_next? hnext]
          exact ih (by omega)

end PageSearch

/-! ## Places -/

namespace Node

/-- The node at a place in the tree of a node, which itself is where no index is left. -/
def below? (n : Node) : List Nat → Option Node
  | [] => some n
  | i :: place => n.children[i]?.bind (·.below? place)

/-- The node at a place in the trees of a list. -/
def among? (ns : List Node) : List Nat → Option Node
  | [] => none
  | i :: place => ns[i]?.bind (·.below? place)

/-- There is a page at a place in the tree of the node. -/
def HasPageBelow (n : Node) (place : List Nat) : Prop :=
  ∃ p, n.below? place = some p ∧ p.kind = .page

/-- There is a page at a place in the trees of the list. -/
def HasPageAmong (ns : List Node) (place : List Nat) : Prop :=
  ∃ p, among? ns place = some p ∧ p.kind = .page

/-- The place is one of those, and nothing above it is. -/
def IsOutermostPlace (places : List Nat → Prop) (place : List Nat) : Prop :=
  places place ∧ ∀ above, above <+: place → above ≠ place → ¬ places above

theorem hasPageAmong_cons_iff {ns : List Node} {i : Nat} {place : List Nat} :
    HasPageAmong ns (i :: place) ↔ ∃ c, ns[i]? = some c ∧ c.HasPageBelow place := by
  simp only [HasPageAmong, HasPageBelow, among?, Option.bind_eq_some_iff]
  constructor
  · rintro ⟨p, ⟨c, hc, hp⟩, hkind⟩
    exact ⟨c, hc, p, hp, hkind⟩
  · rintro ⟨c, hc, p, hp, hkind⟩
    exact ⟨p, ⟨c, hc, hp⟩, hkind⟩

theorem not_hasPageAmong_nil (ns : List Node) : ¬ HasPageAmong ns [] := by
  rintro ⟨p, hp, -⟩
  cases hp

/-- A page is at the place where no index is left. -/
theorem hasPageBelow_nil_iff {n : Node} : n.HasPageBelow [] ↔ n.kind = .page := by
  simp [HasPageBelow, below?]

/-- The outermost page in the tree of a page is the page. -/
theorem isOutermostPlace_of_page {n : Node} (hn : n.kind = .page) {place : List Nat} :
    IsOutermostPlace n.HasPageBelow place ↔ place = [] := by
  constructor
  · rintro ⟨-, habove⟩
    by_contra hne
    exact habove [] (List.nil_prefix) (Ne.symm hne) (hasPageBelow_nil_iff.2 hn)
  · rintro rfl
    refine ⟨hasPageBelow_nil_iff.2 hn, fun above hupper hne => ?_⟩
    exact absurd (List.prefix_nil.1 hupper) hne

/-- The outermost pages in the tree of a node that is none are those of its children. -/
theorem isOutermostPlace_of_not_page {n : Node} (hn : n.kind ≠ .page) {place : List Nat} :
    IsOutermostPlace n.HasPageBelow place ↔ IsOutermostPlace (HasPageAmong n.children) place := by
  have hsame : n.HasPageBelow = HasPageAmong n.children := by
    funext place
    cases place with
    | nil => simp [hasPageBelow_nil_iff, hn, not_hasPageAmong_nil]
    | cons i place => rfl
  rw [hsame]

/-- The outermost pages of a list are those of its members. -/
theorem isOutermostPlace_among_iff {ns : List Node} {place : List Nat} :
    IsOutermostPlace (HasPageAmong ns) place ↔
      ∃ i c rest, ns[i]? = some c ∧ IsOutermostPlace c.HasPageBelow rest ∧ place = i :: rest := by
  constructor
  · rintro ⟨hpage, habove⟩
    cases place with
    | nil => exact absurd hpage (not_hasPageAmong_nil ns)
    | cons i rest =>
        obtain ⟨c, hc, hrest⟩ := hasPageAmong_cons_iff.1 hpage
        refine ⟨i, c, rest, hc, ⟨hrest, fun above hupper hne hmore => ?_⟩, rfl⟩
        refine habove (i :: above) ((List.cons_prefix_cons).2 ⟨rfl, hupper⟩) ?_ ?_
        · exact fun heq => hne (List.cons.inj heq).2
        · exact hasPageAmong_cons_iff.2 ⟨c, hc, hmore⟩
  · rintro ⟨i, c, rest, hc, ⟨hrest, habove⟩, rfl⟩
    refine ⟨hasPageAmong_cons_iff.2 ⟨c, hc, hrest⟩, fun above hupper hne hpage => ?_⟩
    cases above with
    | nil => exact not_hasPageAmong_nil ns hpage
    | cons j above =>
        obtain ⟨rfl, hbelow⟩ := List.cons_prefix_cons.1 hupper
        obtain ⟨c', hc', hmore⟩ := hasPageAmong_cons_iff.1 hpage
        rw [hc, Option.some_inj] at hc'
        subst hc'
        exact habove above hbelow (fun heq => hne (heq ▸ rfl)) hmore

/-! ## The places of the pages -/

mutual

/-- The places of the pages met from a node downwards. -/
def pagePlaces : Node → List (List Nat)
  | ⟨_, kind, _, _, _, _, _, children⟩ => if kind = .page then [[]] else pagePlacesFrom 0 children

/-- The places of the pages met from the nodes of a list downwards, if the first has this index. -/
def pagePlacesFrom : Nat → List Node → List (List Nat)
  | _, [] => []
  | i, n :: ns => (pagePlaces n).map (i :: ·) ++ pagePlacesFrom (i + 1) ns

end

theorem pagePlaces_eq (n : Node) :
    n.pagePlaces = if n.kind = .page then [[]] else pagePlacesFrom 0 n.children := by
  cases n
  rw [pagePlaces]

theorem mem_pagePlacesFrom {ns : List Node} {first : Nat} {place : List Nat} :
    place ∈ pagePlacesFrom first ns ↔
      ∃ i c rest, ns[i]? = some c ∧ rest ∈ c.pagePlaces ∧ place = (first + i) :: rest := by
  induction ns generalizing first with
  | nil => simp [pagePlacesFrom]
  | cons n ns ih =>
      rw [pagePlacesFrom, List.mem_append, List.mem_map, ih]
      constructor
      · rintro (⟨rest, hrest, rfl⟩ | ⟨i, c, rest, hc, hrest, rfl⟩)
        · exact ⟨0, n, rest, rfl, hrest, rfl⟩
        · exact ⟨i + 1, c, rest, hc, hrest, by rw [Nat.add_assoc, Nat.add_comm 1]⟩
      · rintro ⟨i, c, rest, hc, hrest, rfl⟩
        cases i with
        | zero =>
            obtain rfl := Option.some_inj.1 hc
            exact .inl ⟨rest, hrest, rfl⟩
        | succ i => exact .inr ⟨i, c, rest, hc, hrest, by rw [Nat.add_assoc, Nat.add_comm 1]⟩

/-- The places are those of the outermost pages. -/
theorem mem_pagePlaces_iff (n : Node) :
    ∀ place, place ∈ n.pagePlaces ↔ IsOutermostPlace n.HasPageBelow place := by
  induction n using children_induction with
  | h n ih =>
      intro place
      rw [pagePlaces_eq]
      split
      · rename_i hn
        rw [isOutermostPlace_of_page hn, List.mem_singleton]
      · rename_i hn
        rw [isOutermostPlace_of_not_page hn, isOutermostPlace_among_iff, mem_pagePlacesFrom]
        simp only [Nat.zero_add]
        refine exists_congr fun i => exists_congr fun c => exists_congr fun rest => ?_
        exact and_congr_right fun hc => and_congr_left' (ih c (List.mem_of_getElem? hc) rest)

/-- Where the places of each node of a list ascend, so do those of the list. -/
theorem pairwise_pagePlacesFrom {ns : List Node}
    (h : ∀ n ∈ ns, n.pagePlaces.Pairwise (List.Lex (· < ·))) (first : Nat) :
    (pagePlacesFrom first ns).Pairwise (List.Lex (· < ·)) := by
  induction ns generalizing first with
  | nil => exact .nil
  | cons n ns ih =>
      obtain ⟨hn, hns⟩ := List.forall_mem_cons.1 h
      rw [pagePlacesFrom, List.pairwise_append]
      refine ⟨?_, ih hns (first + 1), ?_⟩
      · exact hn.map _ fun _ _ hlt => .cons hlt
      · -- what lies in a later node has a greater first index
        intro place hplace place' hplace'
        obtain ⟨rest, -, rfl⟩ := List.mem_map.1 hplace
        obtain ⟨i, c, rest', -, -, rfl⟩ := mem_pagePlacesFrom.1 hplace'
        exact .rel (by omega)

/-- **The places ascend**: a place comes in front of those below it, and of those at later indices. -/
theorem pairwise_pagePlaces (n : Node) : n.pagePlaces.Pairwise (List.Lex (· < ·)) := by
  induction n using children_induction with
  | h n ih =>
      rw [pagePlaces_eq]
      split
      · exact List.pairwise_singleton _ _
      · exact pairwise_pagePlacesFrom ih 0

/-- Where the pages of each node of a list are at its places, so are those of the list. -/
theorem map_pagePlacesFrom {ns : List Node}
    (h : ∀ n ∈ ns, n.pagePlaces.map n.below? = n.pageRoots.map some) {first : Nat}
    {at? : List Nat → Option Node}
    (hat : ∀ i place, at? ((first + i) :: place) = ns[i]?.bind (·.below? place)) :
    (pagePlacesFrom first ns).map at? = (ns.flatMap pageRoots).map some := by
  induction ns generalizing first with
  | nil => rfl
  | cons n ns ih =>
      obtain ⟨hn, hns⟩ := List.forall_mem_cons.1 h
      have hfirst (place : List Nat) : at? (first :: place) = n.below? place := hat 0 place
      have hrest (i : Nat) (place : List Nat) :
          at? ((first + 1 + i) :: place) = ns[i]?.bind (·.below? place) := by
        rw [Nat.add_assoc, Nat.add_comm 1]
        exact hat (i + 1) place
      rw [pagePlacesFrom, List.map_append, List.map_map, ih hns hrest, List.flatMap_cons,
        List.map_append, ← hn]
      exact congrArg (· ++ _) (List.map_congr_left fun place _ => hfirst place)

/-- **The pages are at their places**, in the same order. -/
theorem map_pagePlaces (n : Node) : n.pagePlaces.map n.below? = n.pageRoots.map some := by
  induction n using children_induction with
  | h n ih =>
      rw [pagePlaces_eq, pageRoots_eq]
      split
      · rfl
      · exact map_pagePlacesFrom ih fun i place => by rw [Nat.zero_add]; rfl

end Node

namespace Document

/-- The node at a place in a document. -/
def at? (d : Document) (place : List Nat) : Option Node := Node.among? d.roots place

/-- There is a page at the place. -/
def HasPageAt (d : Document) (place : List Nat) : Prop := ∃ p, d.at? place = some p ∧ p.kind = .page

/-- The pages are those met from the top-level nodes downwards. -/
theorem pages_eq_flatMap_pageRoots (d : Document) : d.pages = d.roots.flatMap Node.pageRoots := by
  rw [pages, searchPages_eq_flatMap]
  exact List.flatMap_congr fun n _ => n.pageRoots_eq_outermostPages.symm

/-- **The search finds the outermost pages in document order.**  It ends after at most as many moves as
there are nodes, and has found what recursion gives: of each top-level node the node itself if it is a
page, and else what its children give.  There are places, each in front of the next one, that are those
of a page with no page at a place above it, and the pages found are the nodes at these places. -/
theorem search_finds_outermost_pages (d : Document) :
    (∀ moves, Node.weights d.roots ≤ moves →
      (PageSearch.start d.roots).after moves = ⟨[], d.pages⟩) ∧
    d.pages = d.roots.flatMap Node.pageRoots ∧
    ∃ places : List (List Nat), places.Pairwise (List.Lex (· < ·)) ∧
      (∀ place, place ∈ places ↔ d.HasPageAt place ∧
        ∀ above, above <+: place → above ≠ place → ¬ d.HasPageAt above) ∧
      places.map d.at? = d.pages.map some := by
  refine ⟨fun moves hmoves => ?_, pages_eq_flatMap_pageRoots d, Node.pagePlacesFrom 0 d.roots,
    ?_, ?_, ?_⟩
  · have hweights : Node.weights (PageSearch.start d.roots).stack ≤ moves := by
      rwa [PageSearch.start, Node.weights_reverse]
    rw [PageSearch.after_eq hweights, PageSearch.outcome, PageSearch.start, List.reverse_reverse,
      pages_eq_flatMap_pageRoots]
    rfl
  · exact Node.pairwise_pagePlacesFrom (fun n _ => n.pairwise_pagePlaces) 0
  · intro place
    rw [Node.mem_pagePlacesFrom]
    show _ ↔ Node.IsOutermostPlace (Node.HasPageAmong d.roots) place
    rw [Node.isOutermostPlace_among_iff]
    simp only [Nat.zero_add, Node.mem_pagePlaces_iff]
  · rw [pages_eq_flatMap_pageRoots]
    exact Node.map_pagePlacesFrom (fun n _ => n.map_pagePlaces) fun i place => by
      rw [Nat.zero_add]
      rfl

/-- A page in a component in a layout, and a page with a page in it. -/
theorem search_finds_two_pages :
    let first := Node.page "first"
    let second := (Node.page "second").withChild (Node.page "inner")
    let d : Document :=
      { roots := [(Node.layout "l").withChild ((Node.component "c" "card").withChild first), second] }
    Node.weights d.roots ≤ 5 ∧ (PageSearch.start d.roots).after 5 = ⟨[], [first, second]⟩ := by
  intro first second d
  have hweights : Node.weights d.roots ≤ 5 := by decide
  have hpages : d.pages = [first, second] := by
    rw [(search_finds_outermost_pages d).2.1]
    decide
  exact ⟨hweights, hpages ▸ (search_finds_outermost_pages d).1 5 hweights⟩

end Document

end CanvasExport
