import CanvasExport.Proofs.Resolver
import CanvasExport.Proofs.Steps
/-!
# Exports that stop on their way

An export of a page or of a container that fails has asked for tokens up to the fault: for those of the
containers and components in front of it, and in the container of the fault for what comes before it
(`Node.StopsInPage`, `Node.StopsInContainer`).  These are the tokens that it leaves behind, apart from
those that are built in, where a name that is there keeps its value (`Page.resolve_eq_error_iff`).
-/

namespace CanvasExport

/-! ## Walks that stop -/

namespace Walk

variable {α β γ : Type}

/-- The walk makes the requests and comes to its end. -/
def Completes (w : Walk α) (requests : List TokenRequest) : Prop :=
  w.requests = requests ∧ ∃ a, w.outcome = .ok a

/-- The walk makes the requests and stops at the error. -/
def Stops (w : Walk α) (requests : List TokenRequest) (e : ExportError) : Prop :=
  w.requests = requests ∧ w.outcome = .error e

variable {requests : List TokenRequest} {e : ExportError}

theorem completes_pure_iff {a : α} : (pure a : Walk α).Completes requests ↔ requests = [] := by
  constructor
  · rintro ⟨rfl, -⟩
    rfl
  · rintro rfl
    exact ⟨rfl, a, rfl⟩

theorem not_stops_pure {a : α} : ¬ (pure a : Walk α).Stops requests e := by
  rintro ⟨-, h⟩
  cases h

theorem not_completes_fail {e : ExportError} : ¬ (fail e : Walk α).Completes requests := by
  rintro ⟨-, a, h⟩
  cases h

/-- A failure stops at once. -/
theorem stops_fail_iff {e' : ExportError} :
    (fail e' : Walk α).Stops requests e ↔ requests = [] ∧ e = e' := by
  constructor
  · rintro ⟨rfl, h⟩
    exact ⟨rfl, (Except.error.inj h).symm⟩
  · rintro ⟨rfl, rfl⟩
    exact ⟨rfl, rfl⟩

/-- A token is requested, and that is all. -/
theorem completes_request_iff {q : TokenRequest} :
    (request q).Completes requests ↔ requests = [q] := by
  constructor
  · rintro ⟨rfl, -⟩
    rfl
  · rintro rfl
    exact ⟨rfl, q.token, rfl⟩

theorem not_stops_request {q : TokenRequest} : ¬ (request q).Stops requests e := by
  rintro ⟨-, h⟩
  cases h

/-- A request is the first one. -/
theorem completes_request_bind_iff {q : TokenRequest} {next : String → Walk β} :
    (request q >>= next).Completes requests ↔
      ∃ rest, (next q.token).Completes rest ∧ requests = q :: rest := by
  constructor
  · rintro ⟨rfl, b, hb⟩
    exact ⟨_, ⟨rfl, b, hb⟩, rfl⟩
  · rintro ⟨rest, ⟨rfl, b, hb⟩, rfl⟩
    exact ⟨rfl, b, hb⟩

/-- What stops behind a request has made it before. -/
theorem stops_request_bind_iff {q : TokenRequest} {next : String → Walk β} :
    (request q >>= next).Stops requests e ↔
      ∃ rest, (next q.token).Stops rest e ∧ requests = q :: rest := by
  constructor
  · rintro ⟨rfl, he⟩
    exact ⟨_, ⟨rfl, he⟩, rfl⟩
  · rintro ⟨rest, ⟨rfl, he⟩, rfl⟩
    exact ⟨rfl, he⟩

/-- Two walks in a row come to their end when both do. -/
theorem completes_bind_iff {w : Walk α} {next : α → Walk β} {v : Walk γ}
    (h : ∀ a rest, (next a).Completes rest ↔ v.Completes rest) :
    (w >>= next).Completes requests ↔
      ∃ first rest, w.Completes first ∧ v.Completes rest ∧ requests = first ++ rest := by
  cases hw : w.outcome with
  | error e =>
      rw [bind_of_error hw]
      constructor
      · rintro ⟨-, a, ha⟩
        cases ha
      · rintro ⟨first, rest, ⟨-, a, ha⟩, -⟩
        rw [hw] at ha
        cases ha
  | ok a =>
      rw [bind_of_ok hw]
      constructor
      · rintro ⟨rfl, hb⟩
        exact ⟨_, _, ⟨rfl, a, hw⟩, (h a _).1 ⟨rfl, hb⟩, rfl⟩
      · rintro ⟨first, rest, ⟨rfl, -⟩, hrest, rfl⟩
        obtain ⟨rfl, hb⟩ := (h a rest).2 hrest
        exact ⟨rfl, hb⟩

/-- Two walks in a row stop where the first one does, or behind it where the second one does. -/
theorem stops_bind_iff {w : Walk α} {next : α → Walk β} {v : Walk γ}
    (h : ∀ a rest, (next a).Stops rest e ↔ v.Stops rest e) :
    (w >>= next).Stops requests e ↔ w.Stops requests e ∨
      ∃ first rest, w.Completes first ∧ v.Stops rest e ∧ requests = first ++ rest := by
  cases hw : w.outcome with
  | error e' =>
      rw [bind_of_error hw]
      constructor
      · rintro ⟨rfl, he⟩
        obtain rfl := Except.error.inj he
        exact .inl ⟨rfl, hw⟩
      · rintro (⟨rfl, he⟩ | ⟨first, rest, ⟨-, a, ha⟩, -⟩)
        · rw [hw] at he
          obtain rfl := Except.error.inj he
          exact ⟨rfl, rfl⟩
        · rw [hw] at ha
          cases ha
  | ok a =>
      rw [bind_of_ok hw]
      constructor
      · rintro ⟨rfl, he⟩
        exact .inr ⟨_, _, ⟨rfl, a, hw⟩, (h a _).1 ⟨rfl, he⟩, rfl⟩
      · rintro (⟨-, he⟩ | ⟨first, rest, ⟨rfl, -⟩, hrest, rfl⟩)
        · rw [hw] at he
          cases he
        · obtain ⟨rfl, he⟩ := (h a rest).2 hrest
          exact ⟨rfl, he⟩

/-- A result that is made into another one asks for nothing more. -/
theorem completes_bind_pure_iff {w : Walk α} {g : α → β} :
    (w >>= fun a => pure (g a)).Completes requests ↔ w.Completes requests := by
  rw [completes_bind_iff (v := (pure () : Walk Unit)) fun a rest => by
    rw [completes_pure_iff, completes_pure_iff]]
  simp [completes_pure_iff]

theorem stops_bind_pure_iff {w : Walk α} {g : α → β} :
    (w >>= fun a => pure (g a)).Stops requests e ↔ w.Stops requests e := by
  rw [stops_bind_iff (v := (pure () : Walk Unit)) fun a rest =>
    iff_of_false not_stops_pure not_stops_pure]
  simp [not_stops_pure]

section ForEach

variable {visit : α → Walk β} {whole : α → Prop} {requestsOf : α → List TokenRequest}

/-- A walk over a list comes to its end when it does so with each member. -/
theorem completes_forEach_iff
    (h : ∀ a requests, (visit a).Completes requests ↔ whole a ∧ requests = requestsOf a) {as : List α} :
    (forEach visit as).Completes requests ↔
      (∀ a ∈ as, whole a) ∧ requests = as.flatMap requestsOf := by
  induction as generalizing requests with
  | nil =>
      rw [forEach_nil, completes_pure_iff]
      simp
  | cons a as ih =>
      rw [forEach_cons, completes_bind_iff fun b rest => completes_bind_pure_iff]
      simp only [h, ih, List.forall_mem_cons, List.flatMap_cons]
      constructor
      · rintro ⟨_, _, ⟨ha, rfl⟩, ⟨has, rfl⟩, rfl⟩
        exact ⟨⟨ha, has⟩, rfl⟩
      · rintro ⟨⟨ha, has⟩, rfl⟩
        exact ⟨_, _, ⟨ha, rfl⟩, ⟨has, rfl⟩, rfl⟩

/-- It stops at a member where it comes to its end with all members in front of it. -/
theorem stops_forEach_iff
    (h : ∀ a requests, (visit a).Completes requests ↔ whole a ∧ requests = requestsOf a) {as : List α} :
    (forEach visit as).Stops requests e ↔ ∃ before a after rest, as = before ++ a :: after ∧
      (∀ b ∈ before, whole b) ∧ (visit a).Stops rest e ∧
        requests = before.flatMap requestsOf ++ rest := by
  induction as generalizing requests with
  | nil =>
      rw [forEach_nil, iff_false_left not_stops_pure]
      rintro ⟨before, a, after, rest, hsplit, -⟩
      simp at hsplit
  | cons a as ih =>
      rw [forEach_cons, stops_bind_iff fun b rest => stops_bind_pure_iff]
      simp only [h, ih]
      constructor
      · rintro (ha | ⟨_, _, ⟨ha, rfl⟩, ⟨before, b, after, rest, rfl, hbefore, hb, rfl⟩, rfl⟩)
        · exact ⟨[], a, as, requests, rfl, List.forall_mem_nil _, ha, rfl⟩
        · refine ⟨a :: before, b, after, rest, rfl, List.forall_mem_cons.2 ⟨ha, hbefore⟩, hb, ?_⟩
          rw [List.flatMap_cons, List.append_assoc]
      · rintro ⟨before, b, after, rest, hsplit, hbefore, hb, rfl⟩
        cases before with
        | nil =>
            obtain ⟨rfl, -⟩ := List.cons.inj hsplit
            exact .inl hb
        | cons b' before =>
            obtain ⟨rfl, rfl⟩ := List.cons.inj hsplit
            obtain ⟨ha, hrest⟩ := List.forall_mem_cons.1 hbefore
            refine .inr ⟨_, _, ⟨ha, rfl⟩, ⟨before, b, after, rest, rfl, hrest, hb, rfl⟩, ?_⟩
            rw [List.flatMap_cons, List.append_assoc]

end ForEach

/-- The requests of a walk that stops are registered one after the other. -/
theorem run_on_eq_error_iff {w : Walk α} {t u : Tokens} :
    w.on.run.run t = (.error e, u) ↔ ∃ requests, w.Stops requests e ∧ u = t.registerAll requests := by
  rw [run_on, Prod.mk.injEq]
  constructor
  · rintro ⟨he, rfl⟩
    exact ⟨_, ⟨rfl, he⟩, rfl⟩
  · rintro ⟨requests, ⟨rfl, he⟩, rfl⟩
    exact ⟨he, rfl⟩

end Walk

/-! ## What nodes ask for -/

namespace Node

/-- The width of a page. -/
def widthRequest (p : Node) : TokenRequest := .spacing (Pixels.round (p.computedPixels? "width"))

/-- The background of a page. -/
def backgroundRequest (p : Node) : TokenRequest := .color p.backgroundColor

/-- The height of a container. -/
def heightRequest (c : Node) : TokenRequest := .spacing (Pixels.round (c.computedPixels? "height"))

/-- The cell sizes of a container in a layout of a kind; only a grid has any. -/
def cellRequests (c : Node) : LayoutKind → List TokenRequest
  | .grid => [Axis.columns, .rows].flatMap fun axis => (c.cellSize? axis).toList.map (.cell axis)
  | _ => []

/-- The offsets of a component in a layout of a kind; only in a free one there are any. -/
def offsetRequests (kind : LayoutKind) (n : Node) : List TokenRequest :=
  match kind with
  | .free => [.spacing (Pixels.truncate (n.computedPixels? "top")),
      .spacing (Pixels.truncate (n.computedPixels? "left"))]
  | _ => []

/-- All tokens of a container: its height, its cell sizes if it is a grid, and the offsets of its
components if it is free. -/
def containerRequests (c : Node) : List TokenRequest :=
  c.heightRequest :: (c.cellRequests (LayoutKind.ofNode c) ++
    (c.childrenMarked Marker.component).flatMap (offsetRequests (LayoutKind.ofNode c)))

/-- The templates of a layout of a kind give cell sizes; only a grid has any. -/
def HasCells (c : Node) (kind : LayoutKind) : Prop :=
  kind = .grid → ∀ axis, c.cellSize? axis ≠ none

/-- A container without faults: its templates give cell sizes, and its components have descriptors. -/
structure IsFaultless (registry : Registry) (c : Node) : Prop where
  cells : c.HasCells (LayoutKind.ofNode c)
  described : ∀ n ∈ c.childrenMarked Marker.component, registry.descriptorOf? n ≠ none

/-- Where the export of a container stops, and what it has asked for by then. -/
inductive StopsInContainer (registry : Registry) (c : Node) : List TokenRequest → ExportError → Prop
  /-- At the columns of a grid, behind its height. -/
  | columns (hgrid : LayoutKind.ofNode c = .grid) (hcolumns : c.cellSize? .columns = none) :
      StopsInContainer registry c [c.heightRequest]
        (.malformedGridTemplate c.id .columns (c.inline? Axis.columns.property))
  /-- At the rows of a grid, behind its height and its columns. -/
  | rows {width : Double} (hgrid : LayoutKind.ofNode c = .grid)
      (hcolumns : c.cellSize? .columns = some width) (hrows : c.cellSize? .rows = none) :
      StopsInContainer registry c [c.heightRequest, .cell .columns width]
        (.malformedGridTemplate c.id .rows (c.inline? Axis.rows.property))
  /-- At a component, behind the height, both cell sizes of a grid, and the offsets of the components in
  front of it in a free container. -/
  | component {before after : List Node} {n : Node} (hcells : c.HasCells (LayoutKind.ofNode c))
      (hsplit : c.childrenMarked Marker.component = before ++ n :: after)
      (hbefore : ∀ b ∈ before, registry.descriptorOf? b ≠ none)
      (hn : registry.descriptorOf? n = none) :
      StopsInContainer registry c
        (c.heightRequest :: (c.cellRequests (LayoutKind.ofNode c) ++
          before.flatMap (offsetRequests (LayoutKind.ofNode c))))
        (.schemaMissing n.id n.tag)

/-- Where the export of a page stops: in a container, behind the width, the background and all tokens of
the containers in front of it. -/
inductive StopsInPage (registry : Registry) (p : Node) : List TokenRequest → ExportError → Prop
  | container {before after : List Node} {c : Node} {requests : List TokenRequest} {e : ExportError}
      (hsplit : p.childrenMarked Marker.container = before ++ c :: after)
      (hbefore : ∀ b ∈ before, b.IsFaultless registry) (hc : c.StopsInContainer registry requests e) :
      StopsInPage registry p
        (p.widthRequest :: p.backgroundRequest :: (before.flatMap containerRequests ++ requests)) e

end Node

/-! ## Components -/

variable {requests : List TokenRequest} {e : ExportError}

namespace Node

theorem completes_placementClasses_iff {n : Node} {kind : LayoutKind} :
    (n.placementClasses kind).Completes requests ↔ requests = n.offsetRequests kind := by
  cases kind with
  | free =>
      simp only [placementClasses, offsetRequests, Walk.completes_request_bind_iff,
        Walk.completes_bind_pure_iff, Walk.completes_request_iff, exists_eq_left]
  | grid => exact Walk.completes_pure_iff
  | flex => exact Walk.completes_pure_iff

theorem not_stops_placementClasses {n : Node} {kind : LayoutKind} :
    ¬ (n.placementClasses kind).Stops requests e := by
  cases kind with
  | free =>
      simp only [placementClasses, Walk.stops_request_bind_iff, Walk.stops_bind_pure_iff,
        Walk.not_stops_request, false_and, exists_false, not_false_eq_true]
  | grid => exact Walk.not_stops_pure
  | flex => exact Walk.not_stops_pure

end Node

namespace Component

variable {registry : Registry} {kind : LayoutKind}

/-- A component with a descriptor asks for its offsets. -/
theorem completes_ofNode_iff (n : Node) (requests : List TokenRequest) :
    (ofNode registry kind n).Completes requests ↔
      registry.descriptorOf? n ≠ none ∧ requests = n.offsetRequests kind := by
  unfold ofNode
  cases registry.descriptorOf? n with
  | none => simp [Walk.not_completes_fail]
  | some d =>
      dsimp only
      rw [ofDescribed, Walk.completes_bind_pure_iff, Node.completes_placementClasses_iff]
      simp

/-- **A component without a descriptor asks for nothing.** -/
theorem stops_ofNode_iff {n : Node} :
    (ofNode registry kind n).Stops requests e ↔
      registry.descriptorOf? n = none ∧ requests = [] ∧ e = .schemaMissing n.id n.tag := by
  unfold ofNode
  cases registry.descriptorOf? n with
  | none => simp [Walk.stops_fail_iff]
  | some d =>
      dsimp only
      rw [ofDescribed, Walk.stops_bind_pure_iff]
      simp [Node.not_stops_placementClasses]

end Component

/-! ## Containers -/

namespace Layout

/-- A template asks for its cell size. -/
theorem completes_templateClass_iff {n : Node} {axis : Axis} :
    (templateClass n axis).Completes requests ↔
      ∃ size, n.cellSize? axis = some size ∧ requests = [.cell axis size] := by
  unfold templateClass Node.cellSize?
  dsimp only
  cases (n.inline? axis.property).bind GridTemplate.cell? with
  | none => simp [Walk.not_completes_fail]
  | some size =>
      dsimp only
      rw [Walk.completes_bind_pure_iff, Walk.completes_request_iff]
      simp

/-- A template that gives no cell size asks for nothing. -/
theorem stops_templateClass_iff {n : Node} {axis : Axis} :
    (templateClass n axis).Stops requests e ↔ n.cellSize? axis = none ∧ requests = [] ∧
      e = .malformedGridTemplate n.id axis (n.inline? axis.property) := by
  unfold templateClass Node.cellSize?
  dsimp only
  cases (n.inline? axis.property).bind GridTemplate.cell? with
  | none => simp [Walk.stops_fail_iff]
  | some size =>
      dsimp only
      rw [Walk.stops_bind_pure_iff]
      simp [Walk.not_stops_request]

/-- The templates of a grid ask for both cell sizes. -/
theorem completes_templateClasses_iff {n : Node} {kind : LayoutKind} :
    (templateClasses n kind).Completes requests ↔
      n.HasCells kind ∧ requests = n.cellRequests kind := by
  have htemplate (axis : Axis) (requests : List TokenRequest) :
      (templateClass n axis).Completes requests ↔
        n.cellSize? axis ≠ none ∧ requests = (n.cellSize? axis).toList.map (.cell axis) := by
    rw [completes_templateClass_iff]
    cases n.cellSize? axis <;> simp
  cases kind with
  | grid =>
      rw [templateClasses, Walk.completes_forEach_iff htemplate]
      have haxes : (∀ axis ∈ [Axis.columns, .rows], n.cellSize? axis ≠ none) ↔ n.HasCells .grid := by
        constructor
        · intro h _ axis
          exact h axis (by cases axis <;> simp)
        · exact fun h axis _ => h rfl axis
      rw [haxes]
      rfl
  | free => simp [templateClasses, Node.HasCells, Node.cellRequests, Walk.completes_pure_iff]
  | flex => simp [templateClasses, Node.HasCells, Node.cellRequests, Walk.completes_pure_iff]

/-- The templates of a grid stop at the columns, or at the rows behind the columns. -/
theorem stops_templateClasses_iff {n : Node} {kind : LayoutKind} :
    (templateClasses n kind).Stops requests e ↔ kind = .grid ∧
      (n.cellSize? .columns = none ∧ requests = [] ∧
          e = .malformedGridTemplate n.id .columns (n.inline? Axis.columns.property) ∨
        ∃ width, n.cellSize? .columns = some width ∧ n.cellSize? .rows = none ∧
          requests = [.cell .columns width] ∧
          e = .malformedGridTemplate n.id .rows (n.inline? Axis.rows.property)) := by
  cases kind with
  | grid =>
      have hcolumns : (templateClasses n .grid).Stops requests e ↔
          (templateClass n .columns).Stops requests e ∨ ∃ first rest,
            (templateClass n .columns).Completes first ∧ (templateClass n .rows).Stops rest e ∧
              requests = first ++ rest := by
        rw [templateClasses, Walk.forEach_cons, Walk.stops_bind_iff]
        intro columns rest
        rw [Walk.stops_bind_pure_iff, Walk.forEach_cons, Walk.forEach_nil]
        exact Walk.stops_bind_pure_iff
      rw [hcolumns]
      simp only [stops_templateClass_iff, completes_templateClass_iff, true_and]
      refine or_congr_right ?_
      constructor
      · rintro ⟨_, _, ⟨width, hwidth, rfl⟩, ⟨hrows, rfl, rfl⟩, rfl⟩
        exact ⟨width, hwidth, hrows, rfl, rfl⟩
      · rintro ⟨width, hwidth, hrows, rfl, rfl⟩
        exact ⟨_, _, ⟨width, hwidth, rfl⟩, ⟨hrows, rfl, rfl⟩, rfl⟩
  | free => simp [templateClasses, Walk.not_stops_pure]
  | flex => simp [templateClasses, Walk.not_stops_pure]

variable {registry : Registry}

/-- **A container without faults asks for all its tokens.** -/
theorem completes_ofNode_iff (c : Node) (requests : List TokenRequest) :
    (ofNode registry c).Completes requests ↔
      c.IsFaultless registry ∧ requests = c.containerRequests := by
  unfold ofNode
  dsimp only
  rw [Walk.completes_request_bind_iff]
  simp only [Walk.completes_bind_iff fun _ _ => Walk.completes_bind_pure_iff,
    completes_templateClasses_iff, Walk.completes_forEach_iff Component.completes_ofNode_iff]
  constructor
  · rintro ⟨_, ⟨_, _, ⟨hcells, rfl⟩, ⟨hdescribed, rfl⟩, rfl⟩, rfl⟩
    exact ⟨⟨hcells, hdescribed⟩, rfl⟩
  · rintro ⟨⟨hcells, hdescribed⟩, rfl⟩
    exact ⟨_, ⟨_, _, ⟨hcells, rfl⟩, ⟨hdescribed, rfl⟩, rfl⟩, rfl⟩

/-- **A container stops at its first fault.** -/
theorem stops_ofNode_iff {c : Node} :
    (ofNode registry c).Stops requests e ↔ c.StopsInContainer registry requests e := by
  unfold ofNode
  dsimp only
  rw [Walk.stops_request_bind_iff]
  simp only [Walk.stops_bind_iff fun _ _ => Walk.stops_bind_pure_iff, stops_templateClasses_iff,
    completes_templateClasses_iff, Walk.stops_forEach_iff Component.completes_ofNode_iff,
    Component.stops_ofNode_iff]
  constructor
  · rintro ⟨_, ⟨hgrid, ⟨hcolumns, rfl, rfl⟩ | ⟨width, hcolumns, hrows, rfl, rfl⟩⟩ |
      ⟨_, _, ⟨hcells, rfl⟩, ⟨before, n, after, _, hsplit, hbefore, ⟨hn, rfl, rfl⟩, rfl⟩, rfl⟩, rfl⟩
    · exact .columns hgrid hcolumns
    · exact .rows hgrid hcolumns hrows
    · rw [List.append_nil]
      exact .component hcells hsplit hbefore hn
  · rintro (⟨hgrid, hcolumns⟩ | ⟨hgrid, hcolumns, hrows⟩ | ⟨hcells, hsplit, hbefore, hn⟩)
    · exact ⟨_, .inl ⟨hgrid, .inl ⟨hcolumns, rfl, rfl⟩⟩, rfl⟩
    · exact ⟨_, .inl ⟨hgrid, .inr ⟨_, hcolumns, hrows, rfl, rfl⟩⟩, rfl⟩
    · refine ⟨_, .inr ⟨_, _, ⟨hcells, rfl⟩, ⟨_, _, _, _, hsplit, hbefore, ⟨hn, rfl, rfl⟩, rfl⟩, rfl⟩, ?_⟩
      rw [List.append_nil]
      rfl

end Layout

/-! ## Pages -/

namespace Page

variable {registry : Registry} {title : String}

/-- **A page stops in its first container with a fault.** -/
theorem stops_ofNode_iff {p : Node} :
    (ofNode registry title p).Stops requests e ↔ p.StopsInPage registry requests e := by
  unfold ofNode
  simp only [Walk.stops_request_bind_iff, Walk.stops_bind_pure_iff,
    Walk.stops_forEach_iff Layout.completes_ofNode_iff, Layout.stops_ofNode_iff]
  constructor
  · rintro ⟨_, ⟨_, ⟨before, c, after, rest, hsplit, hbefore, hc, rfl⟩, rfl⟩, rfl⟩
    exact .container hsplit hbefore hc
  · rintro ⟨hsplit, hbefore, hc⟩
    exact ⟨_, ⟨_, ⟨_, _, _, _, hsplit, hbefore, hc, rfl⟩, rfl⟩, rfl⟩

end Page

/-- The tokens are those that were there, with the definitions of the requests where a name has none;
what is built in has no definition. -/
def Tokens.IsExtendedBy (t : Tokens) (requests : List TokenRequest) (u : Tokens) : Prop :=
  ∀ family name, (u.dict family).get? name =
    ((t.dict family).get? name).or ((family.definitions requests).lookup name)

theorem Tokens.isExtendedBy_iff {t u : Tokens} {requests : List TokenRequest} :
    t.IsExtendedBy requests u ↔ u = t.registerAll requests := by
  constructor
  · intro h
    apply ext_dict
    intro family
    apply Dict.ext_get?
    intro name
    rw [h, get?_registerAll]
  · rintro rfl family name
    exact get?_registerAll t requests family name

/-- **A failed export leaves behind what it has asked for.**  The export of a page on tokens fails with an
error exactly if it stops in a container with it, and the tokens are then extended by those it has asked
for by then; so it is with the export of a container on its own. -/
theorem Page.resolve_eq_error_iff (registry : Registry) (title : String) (n : Node) (t u : Tokens)
    (e : ExportError) :
    ((Page.resolve registry title n).run.run t = (.error e, u) ↔
      ∃ requests, n.StopsInPage registry requests e ∧ t.IsExtendedBy requests u) ∧
    ((Layout.resolve registry n).run.run t = (.error e, u) ↔
      ∃ requests, n.StopsInContainer registry requests e ∧ t.IsExtendedBy requests u) := by
  rw [← Page.on_ofNode, ← Layout.on_ofNode, Walk.run_on_eq_error_iff, Walk.run_on_eq_error_iff]
  simp only [Page.stops_ofNode_iff, Layout.stops_ofNode_iff, Tokens.isExtendedBy_iff, and_self]

end CanvasExport
