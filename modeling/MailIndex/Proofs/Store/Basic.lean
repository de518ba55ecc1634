import MailIndex.Store.Basic

namespace MailIndex

namespace Scan

theorem visitRows_next {τ : Type} (step : τ → Row → τ) (state : τ) (rows : List Row) :
    visitRows (fun state row => .next (step state row)) state rows =
      (rows.foldl step state, some ()) := by
  induction rows generalizing state with
  | nil => rfl
  | cons row rows ih => exact ih (step state row)

theorem visit_mk_none {τ : Type} (rows : List Row) (visitor : τ → Row → Visit τ) (state : τ) :
    (mk rows none).visit visitor state = ((visitRows visitor state rows).1, .ok ()) := by
  rw [visit]
  rcases visitRows visitor state rows with ⟨state, _ | _⟩ <;> rfl

theorem visit_next {τ : Type} (s : Scan) (step : τ → Row → τ) (state : τ) :
    s.visit (fun state row => .next (step state row)) state =
      (s.rows.foldl step state, s.failure.elim (.ok ()) .error) := by
  rw [visit, visitRows_next]
  cases s.failure <;> rfl

end Scan

theorem RowStore.scan_eq_of_visit {σ : Type} [RowStore σ] {store : σ} {family start : Bytes}
    {matcher : Matcher} {s : Scan}
    (h : ∀ visitor : List Row → Row → Visit (List Row),
      RowStore.visit store family start matcher visitor [] = s.visit visitor []) :
    RowStore.scan store family start matcher = s := by
  rw [RowStore.scan, h, Scan.visit_next, List.foldl_flip_cons_eq_append']
  obtain ⟨rows, _ | failure⟩ := s <;> simp

end MailIndex
