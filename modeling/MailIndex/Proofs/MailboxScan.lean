import MailIndex.MailboxScan
import MailIndex.Proofs.RowFilter
import MailIndex.Proofs.Store.Script

namespace MailIndex

theorem Row.mem_ids {r : Row} {id : MessageId} :
    id ∈ r.ids ↔ (∃ k, RowKey.decode r.key = .ok k) ∧
      ∃ c ∈ r.cells, Qualifier.decode c.qualifier = .ok id := by
  have htoOption : ∀ {answer : Except RowKeyError MessageId},
      answer.toOption = some id ↔ answer = .ok id := by
    intro answer
    cases answer <;> simp [Except.toOption]
  rw [ids]
  cases RowKey.decode r.key with
  | error cause => simp
  | ok k => simp [htoOption]

namespace MailboxScan

def idsOf (rows : List Row) : IdSet := rows.foldl (fun found row => row.harvest found) ∅

theorem mem_foldl_harvest {rows : List Row} {found : IdSet} {id : MessageId} :
    id ∈ (rows.foldl (fun found row => row.harvest found) found).toList ↔
      (∃ r ∈ rows, id ∈ r.ids) ∨ id ∈ found.toList := by
  induction rows generalizing found with
  | nil => simp
  | cons r rows ih =>
    rw [List.foldl_cons, ih, Row.harvest, SortedSet.mem_toList_insertAll]
    simp only [List.mem_cons, exists_eq_or_imp, or_left_comm, or_assoc]

theorem mem_idsOf {rows : List Row} {id : MessageId} :
    id ∈ (idsOf rows).toList ↔ ∃ r ∈ rows, id ∈ r.ids := by
  rw [idsOf, mem_foldl_harvest]
  simp

section Timeless

variable (policy : FailurePolicy) (clock : Clock) (m : MailboxId)

theorem foldl_visitor (rows : List Row) (p : Progress) :
    rows.foldl (fun p row => { p with looks := p.looks + 1, found := row.harvest p.found }) p =
      ⟨p.looks + rows.length, rows.foldl (fun found row => row.harvest found) p.found,
        p.fault⟩ := by
  induction rows generalizing p with
  | nil => rfl
  | cons row rows ih =>
    rw [List.foldl_cons, ih, List.length_cons, Nat.add_right_comm, Nat.add_assoc]
    rfl

theorem ofScan_mk_none (mode : ScanMode) (rows : List Row) :
    ofScan ⟨mode, policy, none⟩ clock m ⟨rows, none⟩ = .ok ⟨idsOf rows, true⟩ := by
  have hvisitor : visitor clock none = fun p row =>
      .next { p with looks := p.looks + 1, found := row.harvest p.found } := rfl
  rw [ofScan, hvisitor, Scan.visit_mk_none, Scan.visitRows_next, foldl_visitor]
  rfl

theorem run_of_prepare_eq_ok (s : MemoryStore) (mode : ScanMode) {f : RowFilter} {matcher : Matcher}
    (h : f.prepare = .ok matcher) :
    (run ⟨mode, policy, none⟩ clock m f).run s =
      (.ok ⟨idsOf (s.rowsFrom postingFamily m.bytes matcher), true⟩, s) := by
  rw [run, runWith, ← Filter.prepare, h]
  cases mode with
  | client =>
    simp only [Script.run_bind, Script.run_scanRows, Script.run_pure, ofScan_mk_none]
  | colocated =>
    simp only [Script.run_bind, Script.run_collect, Script.run_pure,
      MemoryStore.collect_eq_foldl]
    rfl

end Timeless

theorem run_of_prepare_eq_error {σ : Type} [RowStore σ] (s : σ) (options : ScanOptions)
    (clock : Clock) (m : MailboxId) {f : RowFilter} {cause : FilterError}
    (h : f.prepare = .error cause) :
    (run options clock m f).run s = (.error (.filter cause), s) := by
  rw [run, runWith, ← Filter.prepare, h]
  rfl

end MailboxScan

end MailIndex
