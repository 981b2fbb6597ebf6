import CanvasExport.Export.Walk
import Mathlib.Data.List.Forall2
/-!
# Outcomes and steps of walks

A walk over a list succeeds exactly when each member does, and gives their results in order
(`outcome_forEach_eq_ok_iff`).  A walk follows a list of steps when it makes the requests among them
up to the first fault and stops there (`Follows`); walks in a row follow their steps in a row
(`Follows.bind`, `Follows.forEach`).
-/

namespace CanvasExport.Walk

variable {α β γ : Type}

/-! ## Outcomes -/

@[simp] theorem outcome_pure (a : α) : (pure a : Walk α).outcome = .ok a := rfl

@[simp] theorem outcome_fail (e : ExportError) : (fail e : Walk α).outcome = .error e := rfl

/-- A request is followed by what comes after it. -/
@[simp] theorem outcome_request_bind (q : TokenRequest) (next : String → Walk β) :
    (request q >>= next).outcome = (next q.token).outcome := rfl

/-- Two walks in a row succeed when both do. -/
theorem outcome_bind_eq_ok_iff {w : Walk α} {next : α → Walk β} {b : β} :
    (w >>= next).outcome = .ok b ↔ ∃ a, w.outcome = .ok a ∧ (next a).outcome = .ok b := by
  cases h : w.outcome with
  | error e =>
      rw [bind_of_error h]
      simp
  | ok a =>
      rw [bind_of_ok h]
      simp

/-- A result that is made into another one is a result all the same. -/
theorem outcome_bind_pure_eq_ok_iff {w : Walk α} {g : α → β} {b : β} :
    (w >>= fun a => pure (g a)).outcome = .ok b ↔ ∃ a, w.outcome = .ok a ∧ g a = b := by
  rw [outcome_bind_eq_ok_iff]
  simp

theorem forEach_nil (visit : α → Walk β) : forEach visit [] = pure [] := rfl

theorem forEach_cons (visit : α → Walk β) (a : α) (as : List α) :
    forEach visit (a :: as) =
      visit a >>= fun b => forEach visit as >>= fun bs => pure (b :: bs) := rfl

/-- A walk over a list succeeds with the results of its members, in order. -/
theorem outcome_forEach_eq_ok_iff {visit : α → Walk β} {as : List α} {bs : List β} :
    (forEach visit as).outcome = .ok bs ↔
      List.Forall₂ (fun a b => (visit a).outcome = .ok b) as bs := by
  induction as generalizing bs with
  | nil =>
      rw [forEach_nil, outcome_pure, List.forall₂_nil_left_iff]
      simp [eq_comm]
  | cons a as ih =>
      rw [forEach_cons, outcome_bind_eq_ok_iff, List.forall₂_cons_left_iff]
      constructor
      · rintro ⟨b, hb, h⟩
        obtain ⟨rest, hrest, rfl⟩ := outcome_bind_pure_eq_ok_iff.1 h
        exact ⟨b, rest, hb, ih.1 hrest, rfl⟩
      · rintro ⟨b, rest, hb, hrest, rfl⟩
        exact ⟨b, hb, outcome_bind_pure_eq_ok_iff.2 ⟨rest, ih.2 hrest, rfl⟩⟩

/-- Each of the results is that of a member. -/
theorem exists_visit_of_mem_of_ok {visit : α → Walk β} {as : List α} {bs : List β}
    (h : (forEach visit as).outcome = .ok bs) {b : β} (hb : b ∈ bs) :
    ∃ a ∈ as, (visit a).outcome = .ok b := by
  rw [outcome_forEach_eq_ok_iff] at h
  induction h with
  | nil => cases hb
  | cons hhead _ ih =>
      rcases List.mem_cons.1 hb with rfl | hb
      · exact ⟨_, List.mem_cons_self, hhead⟩
      · obtain ⟨a, ha, hvisit⟩ := ih hb
        exact ⟨a, List.mem_cons_of_mem _ ha, hvisit⟩

/-- The error at which a walk stops. -/
def error? (w : Walk α) : Option ExportError :=
  match w.outcome with
  | .ok _ => none
  | .error e => some e

/-- A walk ends with the error at which it stops. -/
theorem outcome_eq_error_iff {w : Walk α} {e : ExportError} :
    w.outcome = .error e ↔ w.error? = some e := by
  unfold error?
  cases w.outcome <;> simp

/-- A walk that succeeds does not stop at an error. -/
theorem error?_eq_none_of_ok {w : Walk α} {a : α} (h : w.outcome = .ok a) : w.error? = none := by
  rw [error?, h]

/-! ## Steps -/

/-- A step of a walk: a token to be requested, or a fault at which the walk stops. -/
inductive Step
  | request (q : TokenRequest)
  | fault (e : ExportError)

namespace Step

/-- The request of a step that is none of the faults. -/
def request? : Step → Option TokenRequest
  | request q => some q
  | fault _ => none

/-- The fault of a step that is none of the requests. -/
def fault? : Step → Option ExportError
  | request _ => none
  | fault e => some e

theorem request?_eq_some_iff {s : Step} {q : TokenRequest} :
    s.request? = some q ↔ s = request q := by
  cases s <;> simp [request?]

theorem fault?_eq_some_iff {s : Step} {e : ExportError} :
    s.fault? = some e ↔ s = fault e := by
  cases s <;> simp [fault?]

end Step

/-- The requests among some steps. -/
def requestsIn (steps : List Step) : List TokenRequest := steps.filterMap Step.request?

/-- The faults among some steps. -/
def faultsIn (steps : List Step) : List ExportError := steps.filterMap Step.fault?

theorem mem_requestsIn {steps : List Step} {q : TokenRequest} :
    q ∈ requestsIn steps ↔ .request q ∈ steps := by
  simp [requestsIn, Step.request?_eq_some_iff]

theorem mem_faultsIn {steps : List Step} {e : ExportError} :
    e ∈ faultsIn steps ↔ .fault e ∈ steps := by
  simp [faultsIn, Step.fault?_eq_some_iff]

/-- The requests among the steps of the members of a list are those of each member, in order. -/
theorem requestsIn_flatMap (stepsOf : α → List Step) (as : List α) :
    requestsIn (as.flatMap stepsOf) = as.flatMap fun a => requestsIn (stepsOf a) :=
  List.filterMap_flatMap

/-- The requests in front of the first fault. -/
def requestsUntilFault : List Step → List TokenRequest
  | [] => []
  | .request q :: steps => q :: requestsUntilFault steps
  | .fault _ :: _ => []

/-- Each of them is one of the steps. -/
theorem mem_of_mem_requestsUntilFault {steps : List Step} {q : TokenRequest}
    (h : q ∈ requestsUntilFault steps) : .request q ∈ steps := by
  induction steps with
  | nil => cases h
  | cons s steps ih =>
      cases s with
      | fault e => cases h
      | request q' =>
          rw [requestsUntilFault, List.mem_cons] at h
          rcases h with rfl | h
          · exact List.mem_cons_self
          · exact List.mem_cons_of_mem _ (ih h)

/-- Where there is no fault all requests are in front of it. -/
theorem requestsUntilFault_of_faultsIn_eq_nil {steps : List Step} (h : faultsIn steps = []) :
    requestsUntilFault steps = requestsIn steps := by
  induction steps with
  | nil => rfl
  | cons s steps ih =>
      cases s with
      | request q =>
          rw [requestsUntilFault, ih h]
          rfl
      | fault e => cases h

/-- Steps behind steps without a fault come into their turn. -/
theorem requestsUntilFault_append_of_faultsIn_eq_nil {steps : List Step} (h : faultsIn steps = [])
    (rest : List Step) :
    requestsUntilFault (steps ++ rest) = requestsUntilFault steps ++ requestsUntilFault rest := by
  induction steps with
  | nil => rfl
  | cons s steps ih =>
      cases s with
      | request q =>
          rw [List.cons_append, requestsUntilFault, ih h]
          rfl
      | fault e => cases h

/-- Steps behind a fault do not. -/
theorem requestsUntilFault_append_of_faultsIn_ne_nil {steps : List Step} (h : faultsIn steps ≠ [])
    (rest : List Step) : requestsUntilFault (steps ++ rest) = requestsUntilFault steps := by
  induction steps with
  | nil => exact absurd rfl h
  | cons s steps ih =>
      cases s with
      | request q =>
          rw [List.cons_append, requestsUntilFault, ih h]
          rfl
      | fault e => rfl

/-- The walk makes the requests of the steps up to the first fault, and stops there. -/
structure Follows (w : Walk α) (steps : List Step) : Prop where
  requests : w.requests = requestsUntilFault steps
  error : w.error? = (faultsIn steps).head?

namespace Follows

variable {w : Walk α} {steps rest : List Step}

theorem pure (a : α) : Follows (Pure.pure a) [] := ⟨rfl, rfl⟩

/-- Nothing behind a failure matters. -/
theorem fail (e : ExportError) (rest : List Step) :
    Follows (Walk.fail e : Walk α) (.fault e :: rest) :=
  ⟨rfl, rfl⟩

theorem request_bind {q : TokenRequest} {next : String → Walk β} (h : (next q.token).Follows rest) :
    Follows (request q >>= next) (.request q :: rest) := by
  constructor
  · show q :: (next q.token).requests = _
    rw [h.requests, requestsUntilFault]
  · show (next q.token).error? = _
    rw [h.error]
    rfl

/-- A walk that succeeds has met no fault. -/
theorem faultsIn_eq_nil_of_ok (h : w.Follows steps) {a : α} (hok : w.outcome = .ok a) :
    faultsIn steps = [] := by
  rw [← List.head?_eq_none_iff, ← h.error, error?_eq_none_of_ok hok]

/-- A walk that succeeds has made all requests. -/
theorem requests_of_ok (h : w.Follows steps) {a : α} (hok : w.outcome = .ok a) :
    w.requests = requestsIn steps := by
  rw [h.requests, requestsUntilFault_of_faultsIn_eq_nil (h.faultsIn_eq_nil_of_ok hok)]

/-- A walk follows its steps, and the next one those behind them. -/
theorem bind {next : α → Walk β} (h : w.Follows steps) (hnext : ∀ a, (next a).Follows rest) :
    Follows (w >>= next) (steps ++ rest) := by
  have happend : faultsIn (steps ++ rest) = faultsIn steps ++ faultsIn rest :=
    List.filterMap_append
  cases hw : w.outcome with
  | error e =>
      -- the steps behind the fault are hidden by it
      have hhead : (faultsIn steps).head? = some e := by
        rw [← h.error, outcome_eq_error_iff.1 hw]
      have hne : faultsIn steps ≠ [] := fun hnil => by
        rw [hnil] at hhead
        cases hhead
      rw [bind_of_error hw]
      constructor
      · rw [requestsUntilFault_append_of_faultsIn_ne_nil hne]
        exact h.requests
      · rw [happend, List.head?_append, hhead]
        rfl
  | ok a =>
      -- the first fault, if there is one, is among the steps behind
      have hnil := h.faultsIn_eq_nil_of_ok hw
      rw [bind_of_ok hw]
      constructor
      · rw [requestsUntilFault_append_of_faultsIn_eq_nil hnil, ← h.requests, ← (hnext a).requests]
      · rw [happend, hnil, List.nil_append, ← (hnext a).error]
        rfl

/-- A result that is made into another one takes no step. -/
theorem bind_pure (h : w.Follows steps) (g : α → β) :
    Follows (w >>= fun a => Pure.pure (g a)) steps := by
  rw [← List.append_nil steps]
  exact h.bind fun a => pure (g a)

/-- A walk over a list follows the steps of its members, in order. -/
theorem forEach {visit : α → Walk β} {stepsOf : α → List Step}
    (h : ∀ a, (visit a).Follows (stepsOf a)) (as : List α) :
    Follows (Walk.forEach visit as) (as.flatMap stepsOf) := by
  induction as with
  | nil => exact pure []
  | cons a as ih =>
      rw [forEach_cons, List.flatMap_cons]
      exact (h a).bind fun b => ih.bind_pure fun bs => b :: bs

end Follows

end CanvasExport.Walk
