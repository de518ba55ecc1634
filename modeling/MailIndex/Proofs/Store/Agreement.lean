import MailIndex.Proofs.Store.Basic
import MailIndex.Proofs.Store.CellKey
import MailIndex.Proofs.Store.Keyed
import MailIndex.Proofs.Store.Memory
import MailIndex.Proofs.Store.Script

namespace MailIndex

inductive RowStore.Call
  | put (a : CellAddress) (value : Bytes)
  | get (a : CellAddress)
  | delete (a : CellAddress)
  | scan (family start : Bytes) (matcher : Matcher) (stops : List Row → Bool)
  | collectIds (family start : Bytes) (matcher : Matcher)

inductive RowStore.Answer
  | put (result : Except StoreError Unit)
  | get (result : Except StoreError (Option Bytes))
  | delete (result : Except StoreError Bool)
  | scan (shown : List Row) (result : Except StoreError Unit)
  | collectIds (result : Except StoreError IdSet)

namespace RowStore

def recorder (stops : List Row → Bool) (shown : List Row) (row : Row) : Visit (List Row) :=
  if stops (shown ++ [row]) then .stop (shown ++ [row]) else .next (shown ++ [row])

variable {σ : Type} [RowStore σ]

def answer (store : σ) : Call → Answer × σ
  | .put a value =>
    let (result, store) := RowStore.put store a value
    (.put result, store)
  | .get a =>
    let (result, store) := RowStore.get store a
    (.get result, store)
  | .delete a =>
    let (result, store) := RowStore.delete store a
    (.delete result, store)
  | .scan family start matcher stops =>
    let (shown, result) := RowStore.visit store family start matcher (recorder stops) []
    (.scan shown result, store)
  | .collectIds family start matcher =>
    (.collectIds (RowStore.collectIds store family start matcher), store)

def answers (store : σ) : List Call → List Answer
  | [] => []
  | call :: calls =>
    let (answer, store) := answer store call
    answer :: answers store calls

end RowStore

structure KeyedStore.Agrees (k : KeyedStore) (m : MemoryStore) : Prop where
  get?_encode : ∀ a, k.cells.get? (CellKey.encode a) = m.find? a
  exists_address : ∀ key value, k.cells.get? key = some value → ∃ a, CellKey.encode a = key
  noEmptyRow : m.NoEmptyRow

namespace KeyedStore.Agrees

variable {k : KeyedStore} {m : MemoryStore}

theorem empty : Agrees ∅ ∅ where
  get?_encode _ := rfl
  exists_address _ _ h := by cases h
  noEmptyRow := MemoryStore.noEmptyRow_empty

theorem insert (h : Agrees k m) (a : CellAddress) (value : Bytes) :
    Agrees ⟨k.cells.insert (CellKey.encode a) value⟩ (m.insert a value) where
  get?_encode b := by
    rw [SortedMap.get?_insert, MemoryStore.find?_insert, h.get?_encode]
    simp only [CellKey.encode_eq_encode_iff]
  exists_address key v hv := by
    rw [SortedMap.get?_insert] at hv
    split at hv
    · exact ⟨a, Eq.symm ‹_›⟩
    · exact h.exists_address key v hv
  noEmptyRow := h.noEmptyRow.insert a value

theorem erase (h : Agrees k m) (a : CellAddress) :
    Agrees ⟨k.cells.erase (CellKey.encode a)⟩ (m.erase a) where
  get?_encode b := by
    rw [SortedMap.get?_erase, MemoryStore.find?_erase, h.get?_encode]
    simp only [CellKey.encode_eq_encode_iff]
  exists_address key v hv := by
    rw [SortedMap.get?_erase] at hv
    split at hv
    · cases hv
    · exact h.exists_address key v hv
  noEmptyRow := h.noEmptyRow.erase a

section Scanning

variable (family start : Bytes)

def entriesAt (m : MemoryStore) : List (Bytes × Bytes) :=
  (m.rowsAt family start).flatMap fun r =>
    r.2.entries.map fun e => (CellKey.encode ⟨family, r.1, e.1⟩, e.2)

theorem pairwise_entriesAt (m : MemoryStore) :
    (entriesAt family start m).Pairwise fun d e => d.1 < e.1 := by
  rw [entriesAt, List.pairwise_flatMap, MemoryStore.rowsAt_eq_filter]
  constructor
  · intro r _
    rw [List.pairwise_map]
    refine r.2.sorted.imp ?_
    intro d e h
    exact CellKey.encode_lt_encode_iff.2 (.inr ⟨rfl, .inr ⟨rfl, h⟩⟩)
  · refine ((m.table family).sorted.filter _).imp ?_
    intro r s h d hd e he
    obtain ⟨d, -, rfl⟩ := List.mem_map.1 hd
    obtain ⟨e, -, rfl⟩ := List.mem_map.1 he
    exact CellKey.encode_lt_encode_iff.2 (.inr ⟨rfl, .inl h⟩)

theorem mem_entriesAt {m : MemoryStore} {e : Bytes × Bytes} :
    e ∈ entriesAt family start m ↔ ∃ row qualifier, start <+: row ∧
      CellKey.encode ⟨family, row, qualifier⟩ = e.1 ∧
      m.find? ⟨family, row, qualifier⟩ = some e.2 := by
  simp only [entriesAt, List.mem_flatMap, List.mem_map, MemoryStore.find?_eq_some_iff]
  constructor
  · rintro ⟨⟨row, cells⟩, hr, ⟨qualifier, value⟩, hc, rfl⟩
    obtain ⟨hr, hstart⟩ := MemoryStore.mem_rowsAt.1 hr
    exact ⟨row, qualifier, hstart, rfl, cells, hr, SortedMap.get?_eq_some_iff.2 hc⟩
  · rintro ⟨row, qualifier, hstart, hkey, cells, hr, hc⟩
    exact ⟨(row, cells), MemoryStore.mem_rowsAt.2 ⟨hr, hstart⟩, (qualifier, e.2),
      SortedMap.get?_eq_some_iff.1 hc, Prod.ext hkey rfl⟩

theorem entries_filter (h : Agrees k m) :
    (k.cells.entries.filter fun e => (CellKey.scanStart family start).isPrefixOf e.1) =
      entriesAt family start m := by
  refine eq_of_sorted_of_mem_iff ?_ ?_ (k.cells.sorted.filter _)
    (pairwise_entriesAt family start m) ?_
  · intro e
    exact StrictTotal.irrefl e.1
  · intro d e f
    exact StrictTotal.trans
  · rintro ⟨key, value⟩
    rw [List.mem_filter, ← SortedMap.get?_eq_some_iff, mem_entriesAt, List.isPrefixOf_iff_prefix]
    constructor
    · rintro ⟨hv, hstart⟩
      obtain ⟨⟨family', row, qualifier⟩, rfl⟩ := h.exists_address key value hv
      obtain ⟨rfl, hrow⟩ := (CellKey.scanStart_prefix_encode_iff _ _ _).1 hstart
      exact ⟨row, qualifier, hrow, rfl, (h.get?_encode _).symm.trans hv⟩
    · rintro ⟨row, qualifier, hrow, rfl, hv⟩
      exact ⟨(h.get?_encode _).trans hv,
        (CellKey.scanStart_prefix_encode_iff _ _ _).2 ⟨rfl, hrow⟩⟩

theorem cellsFrom_eq (h : Agrees k m) :
    k.cellsFrom (CellKey.scanStart family start) =
      flatten ((m.rowsAt family start).map fun r => (r.1, MemoryStore.cellsOf r.2)) := by
  rw [cellsFrom, h.entries_filter, entriesAt, flatten, List.filterMap_flatMap, List.flatMap_map]
  congr 1
  funext r
  simp [MemoryStore.cellsOf, List.filterMap_map, Function.comp_def]

variable (matcher : Matcher)

theorem visit_eq (h : Agrees k m) {τ : Type} (visitor : τ → Row → Visit τ) (state : τ) :
    RowStore.visit k family start matcher visitor state =
      RowStore.visit m family start matcher visitor state := by
  have hcells : ∀ r ∈ (m.rowsAt family start).map fun r => (r.1, MemoryStore.cellsOf r.2),
      r.2 ≠ [] := by
    intro r hr
    obtain ⟨⟨row, cells⟩, hmem, rfl⟩ := List.mem_map.1 hr
    exact MemoryStore.cellsOf_ne_nil (h.noEmptyRow _ _ _ (MemoryStore.mem_rowsAt.1 hmem).1)
  have hkeys : (((m.rowsAt family start).map fun r => (r.1, MemoryStore.cellsOf r.2)).map
      (·.1)).Nodup := by
    rw [List.map_map]
    exact MemoryStore.nodup_map_rowsAt m family start
  change (_, _) = (Scan.mk _ none).visit visitor state
  rw [Scan.visit_mk_none, h.cellsFrom_eq, visitCells_flatten matcher visitor state hcells hkeys,
    List.filterMap_map]
  rfl

theorem collectIds_eq (h : Agrees k m) :
    RowStore.collectIds k family start matcher = RowStore.collectIds m family start matcher := by
  rw [collectIds_eq_visit, h.visit_eq, MemoryStore.visit_eq, Scan.visitRows_next,
    ← MemoryStore.collect_eq_foldl]
  rfl

end Scanning

theorem answer (h : Agrees k m) (call : RowStore.Call) :
    (RowStore.answer k call).1 = (RowStore.answer m call).1 ∧
      Agrees (RowStore.answer k call).2 (RowStore.answer m call).2 := by
  cases call with
  | put a value => exact ⟨rfl, h.insert a value⟩
  | get a =>
    exact ⟨congrArg (fun v => RowStore.Answer.get (.ok v)) (h.get?_encode a), h⟩
  | delete a =>
    have hget := h.get?_encode a
    cases hfind : m.find? a with
    | none =>
      rw [hfind] at hget
      simp [RowStore.answer, RowStore.delete, MemoryStore.erase, hget, hfind, h]
    | some value =>
      rw [hfind] at hget
      simp [RowStore.answer, RowStore.delete, hget, hfind, h.erase a]
  | scan family start matcher stops =>
    rw [RowStore.answer, RowStore.answer, h.visit_eq]
    exact ⟨rfl, h⟩
  | collectIds family start matcher =>
    rw [RowStore.answer, RowStore.answer, h.collectIds_eq]
    exact ⟨rfl, h⟩

theorem answers (h : Agrees k m) (calls : List RowStore.Call) :
    RowStore.answers k calls = RowStore.answers m calls := by
  induction calls generalizing k m with
  | nil => rfl
  | cons call calls ih =>
    obtain ⟨hanswer, hrest⟩ := h.answer call
    rw [RowStore.answers, RowStore.answers]
    exact congr (congrArg List.cons hanswer) (ih hrest)

theorem run (h : Agrees k m) {α : Type} (x : Script α) :
    (x.run k).1 = (x.run m).1 ∧ Agrees (x.run k).2 (x.run m).2 := by
  induction x generalizing k m with
  | done result => exact ⟨rfl, h⟩
  | put a value next ih => exact ih (.ok ()) (h.insert a value)
  | get a next ih =>
    obtain ⟨hanswer, hrest⟩ := h.answer (.get a)
    have hresult : (RowStore.get k a).1 = (RowStore.get m a).1 := RowStore.Answer.get.inj hanswer
    rw [Script.run_get, Script.run_get, hresult]
    exact ih _ hrest
  | delete a next ih =>
    obtain ⟨hanswer, hrest⟩ := h.answer (.delete a)
    have hresult : (RowStore.delete k a).1 = (RowStore.delete m a).1 :=
      RowStore.Answer.delete.inj hanswer
    rw [Script.run_delete, Script.run_delete, hresult]
    exact ih _ hrest
  | scan family start matcher next ih =>
    have hscan : RowStore.scan k family start matcher = RowStore.scan m family start matcher := by
      rw [RowStore.scan, h.visit_eq, RowStore.scan]
    rw [Script.run, Script.run, hscan]
    exact ih _ h
  | collectIds family start matcher next ih =>
    rw [Script.run, Script.run, h.collectIds_eq]
    exact ih _ h

theorem answersAs (h : Agrees k m) : RowStore.AnswersAs k m := fun x => (h.run x).1

end KeyedStore.Agrees

/-- No caller can tell the two stores apart. -/
theorem RowStore.answers_keyed_eq_answers_memory (calls : List RowStore.Call) :
    RowStore.answers (∅ : KeyedStore) calls = RowStore.answers (∅ : MemoryStore) calls :=
  KeyedStore.Agrees.empty.answers calls

end MailIndex
