import CanvasExport.Proofs.Export
import CanvasExport.Proofs.Pages
/-!
# Documents in a row

The pages among nodes in a row are the pages among the first ones and then those among the others
(`Document.searchPages_append`), so the export of both is a walk over the pages of the first ones and
then over those of the others (`Document.exportPages_append`).  It does what two exports in a row do,
except that a failure of the second one leaves no tokens of the first
(`Document.exportWith_append`).
-/

namespace CanvasExport

/-! ## Walks in a row -/

namespace Walk

variable {α β : Type}

/-- A walk over two lists in a row goes over the one and then over the other. -/
theorem forEach_append (visit : α → Walk β) (as as' : List α) :
    forEach visit (as ++ as') =
      forEach visit as >>= fun bs => forEach visit as' >>= fun bs' => pure (bs ++ bs') := by
  induction as with
  | nil =>
      rw [List.nil_append, forEach_nil, pure_bind]
      simp only [List.nil_append, bind_pure]
  | cons a as ih =>
      rw [List.cons_append, forEach_cons, forEach_cons, ih]
      simp only [bind_assoc, pure_bind, List.cons_append]

/-- A result that is made into another one defines nothing. -/
theorem tokensAfter_bind_pure {w : Walk α} {a : α} (h : w.outcome = .ok a) (g : α → β)
    (tokens : Tokens) : (w >>= fun a => pure (g a)).tokensAfter tokens = w.tokensAfter tokens := by
  rw [tokensAfter_bind_of_ok h]
  rfl

end Walk

namespace Document

/-! ## Pages in a row -/

/-- The search finds the pages of one list after the pages of the other. -/
theorem searchPages_append (x y : List Node) :
    searchPages (x ++ y) = searchPages x ++ searchPages y := by
  rw [searchPages_eq_flatMap, searchPages_eq_flatMap, searchPages_eq_flatMap, List.flatMap_append]

/-- The pages of the one document are walked over before those of the other. -/
theorem exportPages_append (first second : Document) (descriptors : List Descriptor)
    (registry : Registry) (title : String) :
    (Document.mk (first.roots ++ second.roots) descriptors).exportPages registry title =
      first.exportPages registry title >>= fun ps =>
        second.exportPages registry title >>= fun qs => pure (ps ++ qs) := by
  have hpages : (Document.mk (first.roots ++ second.roots) descriptors).pages =
      first.pages ++ second.pages := searchPages_append first.roots second.roots
  rw [exportPages, hpages, Walk.forEach_append]
  rfl

/-! ## Exports in a row -/

/-- **An export of nodes in a row is two exports in a row.**  It fails with the error of the first one
where that fails, and else, with the tokens that the first one leaves, with the error of the second
one; either way the tokens stay as they were, although the first one on its own has defined some.
It succeeds where both do, with the pages of the first one and then those of the second one, and with
the tokens after the second one. -/
theorem exportWith_append (first second : Document) (descriptors : List Descriptor)
    (settings : Settings) (registry : Registry) (tokens : Tokens) :
    let both : Document := ⟨first.roots ++ second.roots, descriptors⟩
    (∃ e, first.exportWith settings registry tokens = (.error e, tokens) ∧
        both.exportWith settings registry tokens = (.error e, tokens)) ∨
      ∃ a between, first.exportWith settings registry tokens = (.ok a, between) ∧
        a.tokens = between ∧
        ((∃ e, second.exportWith settings registry between = (.error e, between) ∧
            both.exportWith settings registry tokens = (.error e, tokens)) ∨
          ∃ b after, second.exportWith settings registry between = (.ok b, after) ∧
            b.tokens = after ∧
            both.exportWith settings registry tokens =
              (.ok { b with pages := a.pages ++ b.pages }, after)) := by
  intro both
  have hboth := exportPages_append first second descriptors registry settings.pageTitle
  cases hfirst : (first.exportPages registry settings.pageTitle).outcome with
  | error e =>
      left
      have hfails : (both.exportPages registry settings.pageTitle).outcome = .error e := by
        rw [hboth, Walk.bind_of_error hfirst]
      exact ⟨e, exportWith_of_error hfirst tokens, exportWith_of_error hfails tokens⟩
  | ok ps =>
      right
      refine ⟨_, _, exportWith_of_ok hfirst tokens, rfl, ?_⟩
      set between := (first.exportPages registry settings.pageTitle).tokensAfter tokens
      cases hsecond : (second.exportPages registry settings.pageTitle).outcome with
      | error e =>
          left
          have hfails : (both.exportPages registry settings.pageTitle).outcome = .error e := by
            rw [hboth, Walk.bind_of_ok hfirst, Walk.bind_of_error hsecond]
          exact ⟨e, exportWith_of_error hsecond between, exportWith_of_error hfails tokens⟩
      | ok qs =>
          right
          have hok : (both.exportPages registry settings.pageTitle).outcome = .ok (ps ++ qs) := by
            rw [hboth, Walk.bind_of_ok hfirst, Walk.bind_of_ok hsecond]
            rfl
          -- the second walk goes on from the tokens that the first one leaves
          have htokens : (both.exportPages registry settings.pageTitle).tokensAfter tokens =
              (second.exportPages registry settings.pageTitle).tokensAfter between := by
            rw [hboth, Walk.tokensAfter_bind_of_ok hfirst, Walk.tokensAfter_bind_pure hsecond]
          refine ⟨_, _, exportWith_of_ok hsecond between, rfl, ?_⟩
          rw [exportWith_of_ok hok tokens, htokens]

end Document

end CanvasExport
