import MailIndex.Proofs.Bytes
import MailIndex.Proofs.Order
import MailIndex.Proofs.Store.Basic
import MailIndex.Store.Memory

namespace MailIndex.MemoryStore

theorem table_setRow (s : MemoryStore) (family row : Bytes) (cells : RowCells) (family' : Bytes) :
    (s.setRow family row cells).table family' =
      if family' = family then
        if cells.isEmpty then (s.table family).erase row else (s.table family).insert row cells
      else s.table family' := by
  simp only [setRow, table, SortedMap.get?_insert]
  split <;> rfl

theorem rowCells_setRow (s : MemoryStore) (family row : Bytes) (cells : RowCells)
    (family' row' : Bytes) :
    (s.setRow family row cells).rowCells family' row' =
      if family' = family ∧ row' = row then cells else s.rowCells family' row' := by
  simp only [rowCells, table_setRow]
  by_cases hf : family' = family
  · subst hf
    by_cases he : cells.isEmpty
    · rw [SortedMap.isEmpty_iff.1 he]
      by_cases hr : row' = row <;> simp [SortedMap.get?_erase, hr, SortedMap.isEmpty_iff.2]
    · by_cases hr : row' = row <;> simp [SortedMap.get?_insert, hr, he]
  · simp [hf]

@[simp] theorem find?_empty (a : CellAddress) : (∅ : MemoryStore).find? a = none := rfl

theorem find?_insert (s : MemoryStore) (a : CellAddress) (value : Bytes) (b : CellAddress) :
    (s.insert a value).find? b = if b = a then some value else s.find? b := by
  obtain ⟨family, row, qualifier⟩ := a
  obtain ⟨family', row', qualifier'⟩ := b
  simp only [find?, insert, rowCells_setRow, CellAddress.mk.injEq]
  by_cases h : family' = family ∧ row' = row
  · obtain ⟨rfl, rfl⟩ := h
    simp [SortedMap.get?_insert]
  · rw [if_neg h, if_neg]
    exact fun h' => h ⟨h'.1, h'.2.1⟩

theorem eq_or_find?_of_find?_insert {s : MemoryStore} {a b : CellAddress} {value value' : Bytes}
    (h : (s.insert a value).find? b = some value') : b = a ∨ s.find? b = some value' := by
  rw [find?_insert] at h
  split at h
  · rename_i hb
    exact .inl hb
  · exact .inr h

theorem find?_insert_self (s : MemoryStore) (a : CellAddress) (value : Bytes) :
    (s.insert a value).find? a = some value := by
  rw [find?_insert, if_pos rfl]

theorem isSome_find?_insert {s : MemoryStore} {b : CellAddress}
    (h : (s.find? b).isSome = true) (a : CellAddress) (value : Bytes) :
    ((s.insert a value).find? b).isSome = true := by
  rw [find?_insert]
  split
  · rfl
  · exact h

theorem find?_erase (s : MemoryStore) (a b : CellAddress) :
    (s.erase a).find? b = if b = a then none else s.find? b := by
  rw [erase]
  split
  · rename_i ha
    by_cases h : b = a
    · rw [if_pos h, h, ha]
    · rw [if_neg h]
  · obtain ⟨family, row, qualifier⟩ := a
    obtain ⟨family', row', qualifier'⟩ := b
    simp only [find?, rowCells_setRow, CellAddress.mk.injEq]
    by_cases h : family' = family ∧ row' = row
    · obtain ⟨rfl, rfl⟩ := h
      simp [SortedMap.get?_erase]
    · rw [if_neg h, if_neg]
      exact fun h' => h ⟨h'.1, h'.2.1⟩

theorem find?_foldl {α : Type} {step : MemoryStore → α → MemoryStore}
    {area : α → CellAddress → Prop} [∀ x, DecidablePred (area x)] {value : Option Bytes}
    (hstep : ∀ s x a, (step s x).find? a = if area x a then value else s.find? a)
    (s : MemoryStore) (xs : List α) (a : CellAddress) :
    (xs.foldl step s).find? a = if ∃ x ∈ xs, area x a then value else s.find? a := by
  induction xs generalizing s with
  | nil => simp
  | cons x xs ih =>
    rw [List.foldl_cons, ih, hstep]
    by_cases hxs : ∃ x ∈ xs, area x a
    · rw [if_pos hxs, if_pos]
      obtain ⟨y, hy, ha⟩ := hxs
      exact ⟨y, List.mem_cons_of_mem x hy, ha⟩
    · rw [if_neg hxs]
      simp only [List.mem_cons, exists_eq_or_imp, hxs, or_false]

theorem find?_foldl_insert {α : Type} (address : α → CellAddress) (value : Bytes)
    (s : MemoryStore) (xs : List α) (a : CellAddress) :
    (xs.foldl (fun s x => s.insert (address x) value) s).find? a =
      if ∃ x ∈ xs, a = address x then some value else s.find? a :=
  find?_foldl (fun s x a => find?_insert s (address x) value a) s xs a

theorem find?_foldl_erase {α : Type} (address : α → CellAddress) (s : MemoryStore)
    (xs : List α) (a : CellAddress) :
    (xs.foldl (fun s x => s.erase (address x)) s).find? a =
      if ∃ x ∈ xs, a = address x then none else s.find? a :=
  find?_foldl (fun s x a => find?_erase s (address x) a) s xs a

def NoEmptyRow (s : MemoryStore) : Prop :=
  ∀ family row cells, (s.table family).get? row = some cells → cells ≠ ∅

theorem noEmptyRow_empty : NoEmptyRow ∅ := by
  intro family row cells h
  cases h

theorem NoEmptyRow.setRow {s : MemoryStore} (h : s.NoEmptyRow) (family row : Bytes)
    (cells : RowCells) : (s.setRow family row cells).NoEmptyRow := by
  intro family' row' cells' h'
  rw [table_setRow] at h'
  by_cases hf : family' = family
  · rw [if_pos hf] at h'
    by_cases he : cells.isEmpty
    · rw [if_pos he, SortedMap.get?_erase] at h'
      split at h'
      · cases h'
      · exact h family row' cells' h'
    · rw [if_neg he, SortedMap.get?_insert] at h'
      split at h'
      · cases h'
        exact fun h => he (SortedMap.isEmpty_iff.2 h)
      · exact h family row' cells' h'
  · rw [if_neg hf] at h'
    exact h family' row' cells' h'

theorem NoEmptyRow.insert {s : MemoryStore} (h : s.NoEmptyRow) (a : CellAddress)
    (value : Bytes) : (s.insert a value).NoEmptyRow := h.setRow _ _ _

theorem NoEmptyRow.erase {s : MemoryStore} (h : s.NoEmptyRow) (a : CellAddress) :
    (s.erase a).NoEmptyRow := by
  rw [MemoryStore.erase]
  split
  · exact h
  · exact h.setRow _ _ _

theorem table_eq_of_find?_eq {s t : MemoryStore} (hs : s.NoEmptyRow) (ht : t.NoEmptyRow)
    (h : ∀ a, s.find? a = t.find? a) (family : Bytes) : s.table family = t.table family := by
  refine SortedMap.ext_get? fun row => ?_
  have hcells : s.rowCells family row = t.rowCells family row :=
    SortedMap.ext_get? fun qualifier => h ⟨family, row, qualifier⟩
  rw [rowCells, rowCells] at hcells
  -- a row that only one of the stores has would be empty
  cases hrow : (s.table family).get? row with
  | none =>
    cases hrow' : (t.table family).get? row with
    | none => rfl
    | some cells =>
      rw [hrow, hrow'] at hcells
      exact absurd hcells.symm (ht family row cells hrow')
  | some cells =>
    cases hrow' : (t.table family).get? row with
    | none =>
      rw [hrow, hrow'] at hcells
      exact absurd hcells (hs family row cells hrow)
    | some cells' =>
      rw [hrow, hrow'] at hcells
      exact congrArg some hcells

theorem rowsAt_eq_filter (s : MemoryStore) (family start : Bytes) :
    s.rowsAt family start = (s.table family).entries.filter fun e => start.isPrefixOf e.1 := by
  refine SortedMap.takeWhile_dropWhile_eq_filter (r := fun a b => a.1 < b.1) ?_ ?_ ?_
    (s.table family).sorted
  · intro a ha
    simpa using Bytes.not_lt_of_prefix (List.isPrefixOf_iff_prefix.1 ha)
  · intro a b hab hb
    simp only [decide_eq_true_eq] at hb ⊢
    exact StrictTotal.trans hab hb
  · intro a b hab ha hb
    simp only [decide_eq_false_iff_not, List.isPrefixOf_iff_prefix] at ha hb ⊢
    exact Bytes.prefix_of_lt ha hab hb

theorem mem_rowsAt {s : MemoryStore} {family start row : Bytes} {cells : RowCells} :
    (row, cells) ∈ s.rowsAt family start ↔
      (s.table family).get? row = some cells ∧ start <+: row := by
  rw [rowsAt_eq_filter, List.mem_filter, SortedMap.get?_eq_some_iff, List.isPrefixOf_iff_prefix]

theorem nodup_map_rowsAt (s : MemoryStore) (family start : Bytes) :
    ((s.rowsAt family start).map (·.1)).Nodup := by
  rw [rowsAt_eq_filter]
  refine List.pairwise_map.2 (((s.table family).sorted.filter _).imp ?_)
  intro a b
  exact StrictTotal.ne_of_lt

theorem cellsOf_ne_nil {cells : RowCells} (h : cells ≠ ∅) : cellsOf cells ≠ [] := by
  intro he
  rw [cellsOf, List.map_eq_nil_iff] at he
  exact h (SortedMap.isEmpty_iff.1 (List.isEmpty_iff.2 he))

theorem mem_cellsOf {cells : RowCells} {c : Cell} :
    c ∈ cellsOf cells ↔ cells.get? c.qualifier = some c.value := by
  obtain ⟨qualifier, value⟩ := c
  simp [cellsOf, SortedMap.get?_eq_some_iff]

theorem find?_eq_some_iff {s : MemoryStore} {a : CellAddress} {value : Bytes} :
    s.find? a = some value ↔
      ∃ cells, (s.table a.family).get? a.row = some cells ∧
        cells.get? a.qualifier = some value := by
  rw [find?, rowCells]
  cases (s.table a.family).get? a.row with
  | none => simp
  | some cells => simp

def addresses (s : MemoryStore) : List CellAddress :=
  s.families.entries.flatMap fun f =>
    f.2.entries.flatMap fun r => r.2.entries.map fun c => ⟨f.1, r.1, c.1⟩

theorem mem_addresses_of_isSome {s : MemoryStore} {a : CellAddress}
    (h : (s.find? a).isSome = true) : a ∈ s.addresses := by
  obtain ⟨value, hfind⟩ := Option.isSome_iff_exists.1 h
  obtain ⟨cells, hrow, hcell⟩ := find?_eq_some_iff.1 hfind
  cases hfamily : s.families.get? a.family with
  | none =>
    rw [table, hfamily] at hrow
    cases hrow
  | some rows =>
    rw [table, hfamily] at hrow
    refine List.mem_flatMap.2 ⟨_, SortedMap.get?_eq_some_iff.1 hfamily, ?_⟩
    refine List.mem_flatMap.2 ⟨_, SortedMap.get?_eq_some_iff.1 hrow, ?_⟩
    exact List.mem_map.2 ⟨_, SortedMap.get?_eq_some_iff.1 hcell, rfl⟩

theorem ofCells?_eq_some_iff {matcher : Matcher} {key : Bytes} {cells : List Cell} {r : Row} :
    Row.ofCells? matcher key cells = some r ↔
      r = ⟨key, cells.filter fun c => matcher.holds key c⟩ ∧ r.cells ≠ [] := by
  rw [Row.ofCells?]
  split
  · rename_i hnil
    rw [hnil]
    constructor
    · nofun
    · rintro ⟨rfl, hne⟩
      exact absurd rfl hne
  · rename_i hne
    constructor
    · rintro ⟨⟩
      exact ⟨rfl, hne⟩
    · rintro ⟨rfl, -⟩
      rfl

section Rows

variable {s t : MemoryStore} {family start row : Bytes} {matcher : Matcher} {r : Row} {c : Cell}

theorem mem_rowsFrom (h : r ∈ s.rowsFrom family start matcher) :
    r.cells ≠ [] ∧ start <+: r.key ∧ ∀ c, c ∈ r.cells ↔
      s.find? ⟨family, r.key, c.qualifier⟩ = some c.value ∧ matcher.holds r.key c = true := by
  obtain ⟨⟨row, cells⟩, he, hr⟩ := List.mem_filterMap.1 h
  obtain ⟨hget, hstart⟩ := mem_rowsAt.1 he
  obtain ⟨rfl, hne⟩ := ofCells?_eq_some_iff.1 hr
  refine ⟨hne, hstart, fun c => ?_⟩
  simp [find?_eq_some_iff, hget, mem_cellsOf]

theorem exists_mem_rowsFrom (hfind : s.find? ⟨family, row, c.qualifier⟩ = some c.value)
    (hstart : start <+: row) (hholds : matcher.holds row c = true) :
    ∃ r ∈ s.rowsFrom family start matcher, r.key = row ∧ c ∈ r.cells := by
  obtain ⟨cells, hget, hcell⟩ := find?_eq_some_iff.1 hfind
  have hc : c ∈ (cellsOf cells).filter fun c => matcher.holds row c :=
    List.mem_filter.2 ⟨mem_cellsOf.2 hcell, hholds⟩
  refine ⟨⟨row, (cellsOf cells).filter fun c => matcher.holds row c⟩, ?_, rfl, hc⟩
  exact List.mem_filterMap.2 ⟨(row, cells), mem_rowsAt.2 ⟨hget, hstart⟩,
    ofCells?_eq_some_iff.2 ⟨rfl, List.ne_nil_of_mem hc⟩⟩

theorem pairwise_cells_of_mem_rowsFrom (h : r ∈ s.rowsFrom family start matcher) :
    r.cells.Pairwise fun c d => c.qualifier < d.qualifier := by
  obtain ⟨⟨row, cells⟩, -, hr⟩ := List.mem_filterMap.1 h
  obtain ⟨rfl, -⟩ := ofCells?_eq_some_iff.1 hr
  have hsorted : (cellsOf cells).Pairwise fun c d => c.qualifier < d.qualifier :=
    List.pairwise_map.2 cells.sorted
  exact hsorted.filter _

theorem mem_rowsFrom_iff :
    r ∈ s.rowsFrom family start matcher ↔
      r.cells ≠ [] ∧ start <+: r.key ∧ r.cells.Pairwise (fun c d => c.qualifier < d.qualifier) ∧
        ∀ c, c ∈ r.cells ↔
          s.find? ⟨family, r.key, c.qualifier⟩ = some c.value ∧ matcher.holds r.key c = true := by
  constructor
  · intro h
    obtain ⟨hne, hstart, hcells⟩ := mem_rowsFrom h
    exact ⟨hne, hstart, pairwise_cells_of_mem_rowsFrom h, hcells⟩
  · rintro ⟨hne, hstart, hsorted, hcells⟩
    obtain ⟨c, hc⟩ := List.exists_mem_of_ne_nil r.cells hne
    obtain ⟨hfind, hholds⟩ := (hcells c).1 hc
    obtain ⟨⟨key, cells⟩, hr', rfl, -⟩ := exists_mem_rowsFrom hfind hstart hholds
    -- the row that is shown under this key has the same cells, in the same order
    have hsame : cells = r.cells := by
      refine eq_of_sorted_of_mem_iff (r := fun c d : Cell => c.qualifier < d.qualifier)
        (fun c => StrictTotal.irrefl c.qualifier) (fun _ _ _ => StrictTotal.trans)
        (pairwise_cells_of_mem_rowsFrom hr') hsorted fun c => ?_
      rw [hcells, (mem_rowsFrom hr').2.2]
    rwa [hsame] at hr'

variable (s family start matcher) in
theorem pairwise_rowsFrom :
    (s.rowsFrom family start matcher).Pairwise fun r r' => r.key < r'.key := by
  rw [rowsFrom, rowsAt_eq_filter]
  refine List.Pairwise.filterMap _ ?_ ((s.table family).sorted.filter _)
  intro e e' hlt r hr r' hr'
  obtain ⟨rfl, -⟩ := ofCells?_eq_some_iff.1 hr
  obtain ⟨rfl, -⟩ := ofCells?_eq_some_iff.1 hr'
  exact hlt

theorem rowsFrom_congr
    (h : ∀ row c, start <+: row → matcher.holds row c = true →
      s.find? ⟨family, row, c.qualifier⟩ = t.find? ⟨family, row, c.qualifier⟩) :
    s.rowsFrom family start matcher = t.rowsFrom family start matcher := by
  refine eq_of_sorted_of_mem_iff (r := fun r r' : Row => r.key < r'.key)
    (fun r => StrictTotal.irrefl r.key) (fun _ _ _ => StrictTotal.trans)
    (pairwise_rowsFrom ..) (pairwise_rowsFrom ..) fun r => ?_
  rw [mem_rowsFrom_iff, mem_rowsFrom_iff]
  refine and_congr_right fun _ => and_congr_right fun hstart => and_congr_right fun _ => ?_
  refine forall_congr' fun c => iff_congr Iff.rfl (and_congr_left fun hholds => ?_)
  rw [h r.key c hstart hholds]

end Rows

theorem visit_eq {τ : Type} (s : MemoryStore) (family start : Bytes) (matcher : Matcher)
    (visitor : τ → Row → Visit τ) (state : τ) :
    RowStore.visit s family start matcher visitor state =
      ((Scan.visitRows visitor state (s.rowsFrom family start matcher)).1, .ok ()) :=
  Scan.visit_mk_none ..

theorem scan_eq (s : MemoryStore) (family start : Bytes) (matcher : Matcher) :
    RowStore.scan s family start matcher = ⟨s.rowsFrom family start matcher, none⟩ :=
  RowStore.scan_eq_of_visit fun _ => rfl

theorem collect_eq_foldl (s : MemoryStore) (family start : Bytes) (matcher : Matcher) :
    s.collect family start matcher =
      (s.rowsFrom family start matcher).foldl (fun found row => row.harvest found) ∅ := by
  rw [collect, rowsFrom, List.foldl_filterMap]
  congr 1
  funext found e
  cases Row.ofCells? matcher e.1 (cellsOf e.2) <;> rfl

end MailIndex.MemoryStore
