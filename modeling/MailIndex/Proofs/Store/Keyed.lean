import MailIndex.Store.Keyed

namespace MailIndex.KeyedStore

def flatten (rows : List (Bytes × List Cell)) : List (Bytes × Cell) :=
  rows.flatMap fun r => r.2.map fun c => (r.1, c)

theorem flatten_cons (key : Bytes) (cells : List Cell) (rows : List (Bytes × List Cell)) :
    flatten ((key, cells) :: rows) = cells.map (fun c => (key, c)) ++ flatten rows := rfl

theorem fst_mem_of_mem_flatten {rows : List (Bytes × List Cell)} {e : Bytes × Cell}
    (h : e ∈ flatten rows) : e.1 ∈ rows.map (·.1) := by
  simp only [flatten, List.mem_flatMap, List.mem_map] at h
  obtain ⟨r, hr, c, -, rfl⟩ := h
  exact List.mem_map_of_mem hr

section Visiting

variable {τ : Type} (matcher : Matcher) (visitor : τ → Row → Visit τ)

theorem visitCells_first_cell (state : τ) (key : Bytes) (c : Cell) (rest : List (Bytes × Cell)) :
    visitCells matcher visitor state none ((key, c) :: rest) =
      visitCells matcher visitor state (some ⟨key, []⟩) ((key, c) :: rest) := by
  rw [visitCells, visitCells]
  simp [gather]

theorem visitCells_same_row (state : τ) (key : Bytes) (seen cells : List Cell)
    (rest : List (Bytes × Cell)) :
    visitCells matcher visitor state (some ⟨key, seen⟩) (cells.map (fun c => (key, c)) ++ rest) =
      visitCells matcher visitor state
        (some ⟨key, seen ++ cells.filter fun c => matcher.holds key c⟩) rest := by
  induction cells generalizing seen with
  | nil => simp
  | cons c cells ih =>
    rw [List.map_cons, List.cons_append, visitCells]
    cases hc : matcher.holds key c <;> simp [gather, hc, ih]

theorem visitCells_end_of_row (state : τ) (key : Bytes) (seen : List Cell)
    {rest : List (Bytes × Cell)} (h : ∀ e ∈ rest, key ≠ e.1) :
    visitCells matcher visitor state (some ⟨key, seen⟩) rest =
      match flush visitor state (some ⟨key, seen⟩) with
      | .next state => visitCells matcher visitor state none rest
      | .stop state => (state, none) := by
  cases rest with
  | nil =>
    rw [visitCells]
    cases flush visitor state (some ⟨key, seen⟩) <;> rfl
  | cons e rest =>
    have := h e (List.mem_cons_self ..)
    rw [visitCells]
    simp only [Option.any_some, bne_iff_ne, ne_eq, this, not_false_eq_true, if_true]
    cases flush visitor state (some ⟨key, seen⟩) <;> simp [visitCells]

/-- A row whose cells all fail is passed over, as it is when it is set aside first. -/
theorem flush_passing (state : τ) (key : Bytes) (cells : List Cell) (rows : List Row) :
    (match flush visitor state (some ⟨key, cells.filter fun c => matcher.holds key c⟩) with
      | .next state => Scan.visitRows visitor state rows
      | .stop state => (state, none)) =
      Scan.visitRows visitor state ((Row.ofCells? matcher key cells).toList ++ rows) := by
  rw [Row.ofCells?]
  cases cells.filter fun c => matcher.holds key c with
  | nil => rfl
  | cons c passing => rfl

theorem visitCells_flatten (state : τ) {rows : List (Bytes × List Cell)}
    (hcells : ∀ r ∈ rows, r.2 ≠ []) (hkeys : (rows.map (·.1)).Nodup) :
    visitCells matcher visitor state none (flatten rows) =
      Scan.visitRows visitor state (rows.filterMap fun r => Row.ofCells? matcher r.1 r.2) := by
  induction rows generalizing state with
  | nil => rfl
  | cons r rows ih =>
    obtain ⟨key, cells⟩ := r
    obtain ⟨hkey, hkeys⟩ := List.nodup_cons.1 hkeys
    have later : ∀ e ∈ flatten rows, key ≠ e.1 := by
      rintro e he rfl
      exact hkey (fst_mem_of_mem_flatten he)
    have start : visitCells matcher visitor state none (flatten ((key, cells) :: rows)) =
        visitCells matcher visitor state (some ⟨key, []⟩) (flatten ((key, cells) :: rows)) := by
      cases cells with
      | nil => exact absurd rfl (hcells _ (List.mem_cons_self ..))
      | cons c cells => exact visitCells_first_cell matcher visitor state key c _
    have hcells' : ∀ r ∈ rows, r.2 ≠ [] := fun r hr => hcells r (List.mem_cons_of_mem _ hr)
    rw [start, flatten_cons, visitCells_same_row, List.nil_append,
      visitCells_end_of_row matcher visitor state key _ later]
    simp only [ih _ hcells' hkeys, flush_passing]
    cases h : Row.ofCells? matcher key cells <;> simp [h]

end Visiting

theorem collectIds_eq_visit (s : KeyedStore) (family start : Bytes) (matcher : Matcher) :
    RowStore.collectIds s family start matcher =
      .ok (RowStore.visit s family start matcher (fun found row => .next (row.harvest found))
        (∅ : IdSet)).1 := rfl

end MailIndex.KeyedStore
