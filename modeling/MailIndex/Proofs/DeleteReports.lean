import MailIndex.Proofs.FailedDeletions
import MailIndex.Proofs.IdRange
import MailIndex.Proofs.MessageCells
import MailIndex.Proofs.Store.Flaky

namespace MailIndex.Index

open MemoryStore (AgreeOn)

section Flaky

variable {k : FlakyStore}

theorem run_delete_of_scan_ne_none (h : k.faults.scan ≠ none) (m : MailboxId) (id : MessageId) :
    (delete m id).run k = (⟨0, 1⟩, k) := by
  obtain ⟨fault, hfault⟩ := Option.ne_none_iff_exists'.1 h
  rw [delete, Script.run_bind, FlakyStore.run_scanRows, FaultPattern.interrupt, hfault]
  rfl

theorem run_delete_of_scan_eq_none (h : k.faults.scan = none) (m : MailboxId) (id : MessageId) :
    (delete m id).run k =
      (deleteCells (Qualifier.encode id) (cellRows k.cells m id)).run k := by
  rw [delete, Script.run_bind, FlakyStore.run_scanRows, FaultPattern.interrupt, h]
  rfl

theorem failed_run_deleteCells (k : FlakyStore) (qualifier : Bytes) (rows : List Bytes) :
    ((deleteCells qualifier rows).run k).1.failed =
      (List.range rows.length).countP fun turn => (k.faults.delete turn).isSome := by
  induction rows generalizing k with
  | nil => rfl
  | cons row rows ih =>
    rw [deleteCells, Script.run_bind, Script.run_bind, List.length_cons, List.range_succ_eq_map,
      List.countP_cons, List.countP_map, Nat.add_comm]
    refine congrArg₂ Nat.add ?_ (ih _)
    rw [Script.deleteCell, Script.run_delete, FlakyStore.delete_eq]
    cases hfault : k.faults.delete 0 with
    | none =>
      rw [CallFaults.attempt_of_eq_none _ _ _ hfault]
      cases (k.cells.find? ⟨postingFamily, row, qualifier⟩).isSome <;> rfl
    | some cause =>
      rw [CallFaults.attempt_of_eq_some _ _ _ hfault]
      rfl

end Flaky

section Left

variable {s s' : MemoryStore} {m : MailboxId} {id : MessageId} {failed : List Bytes}
  (hfailed : failed.Sublist (cellRows s m id))
  (hfind : ∀ a, s'.find? a = if MessageCell m id a ∧ a.row ∉ failed then none else s.find? a)
include hfailed hfind

theorem perm_cellRows_failed : (cellRows s' m id).Perm failed := by
  rw [List.perm_ext_iff_of_nodup (nodup_cellRows ..) (hfailed.nodup (nodup_cellRows ..))]
  intro row
  rw [mem_cellRows]
  constructor
  · intro h
    exact (isSome_find?_iff_mem_failed hfailed hfind h.1).1 h.2
  · intro hrow
    have hstart : m.bytes <+: row := (mem_cellRows.1 (hfailed.subset hrow)).1
    exact ⟨hstart, (isSome_find?_iff_mem_failed hfailed hfind hstart).2 hrow⟩

theorem ncard_cellsIn_left : (s'.cellsIn (MessageCell m id)).ncard = failed.length := by
  rw [← length_cellRows_eq_ncard, (perm_cellRows_failed hfailed hfind).length_eq]

omit hfailed in
theorem cellsIn_left_subset : s'.cellsIn (MessageCell m id) ⊆ s.cellsIn (MessageCell m id) := by
  intro a ha
  obtain ⟨hcell, hsome⟩ := ha
  rw [hfind] at hsome
  split at hsome
  · cases hsome
  · exact ⟨hcell, hsome⟩

omit hfailed in
theorem agreeOn_of_left :
    AgreeOn (· ∉ s.cellsIn (MessageCell m id) \ s'.cellsIn (MessageCell m id)) s s' := by
  intro a ha
  rw [hfind]
  split
  · rename_i hcell
    -- a cell that was there would be gone now
    by_contra hsome
    refine ha ⟨⟨hcell.1, Option.isSome_iff_ne_none.2 hsome⟩, fun hleft => ?_⟩
    have hnone := hleft.2
    rw [hfind, if_pos hcell] at hnone
    cases hnone
  · rfl

end Left

/-- A deletion reports all cells of the message, those that are gone and those that it could not
delete. Deleted again, these are gone too; no other cell is ever touched. If the scan for the cells
fails, nothing is deleted. -/
theorem delete_reports_every_cell (k : FlakyStore) (m : MailboxId) (id : MessageId) :
    let deleted := (delete m id).run k
    let cells := k.cells.cellsIn (MessageCell m id)
    let left := deleted.2.cells.cellsIn (MessageCell m id)
    (k.faults.scan ≠ none → deleted.1 = ⟨0, 1⟩ ∧ deleted.2.cells = k.cells) ∧
      (k.faults.scan = none →
        deleted.1.removed + deleted.1.failed = cells.ncard ∧
        deleted.1.failed =
          ((List.range cells.ncard).countP fun turn => (k.faults.delete turn).isSome) ∧
        (cells \ left).ncard = deleted.1.removed ∧
        AgreeOn (· ∉ cells \ left) k.cells deleted.2.cells ∧
        let again := (delete m id).run deleted.2.cells
        again.1 = ⟨deleted.1.failed, 0⟩ ∧ again.2.cellsIn (MessageCell m id) = ∅) := by
  intro deleted cells left
  refine ⟨fun hscan => ?_, fun hscan => ?_⟩
  · have hdeleted : deleted = (⟨0, 1⟩, k) := run_delete_of_scan_ne_none hscan m id
    rw [hdeleted]
    exact ⟨rfl, rfl⟩
  · -- the scan succeeds, so all that can fail are deletions of the rows it shows
    have hwithin : k.Within (· ≠ .scan) := by
      rintro call hcall rfl
      exact hcall hscan
    obtain ⟨hends, -⟩ := FlakyStore.stepsEnd.ends_run hwithin (delete m id)
    obtain ⟨failed, hfailed, hreport, hlength, hfind⟩ := find?_of_ends_delete (fun h => h rfl) hends
    rw [length_cellRows_eq_ncard] at hlength
    have hleft : left.ncard = deleted.1.failed :=
      (ncard_cellsIn_left hfailed hfind).trans hreport.symm
    refine ⟨hlength, ?_, ?_, agreeOn_of_left hfind, ?_, ?_⟩
    · rw [← length_cellRows_eq_ncard, ← failed_run_deleteCells k (Qualifier.encode id),
        ← run_delete_of_scan_eq_none hscan]
    · rw [Set.ncard_sdiff (cellsIn_left_subset hfind) (MemoryStore.finite_cellsIn ..), hleft,
        ← hlength, Nat.add_sub_cancel]
    · rw [run_delete_answer, length_cellRows_eq_ncard, hleft]
    · exact MemoryStore.cellsIn_of_cleared (find?_run_delete deleted.2.cells m id)

section Each

variable (s : MemoryStore) (m : MailboxId)

theorem find?_run_deleteEach (ids : List MessageId) (a : CellAddress) :
    ((deleteEach m ids).run s).2.find? a =
      if ∃ id ∈ ids, MessageCell m id a then none else s.find? a := by
  rw [run_deleteEach]
  exact MemoryStore.find?_foldl (fun s id a => find?_run_delete s m id a) s ids a

theorem run_deleteEach_answer (ids : List MessageId) :
    ((deleteEach m ids).run s).1 =
      ⟨(s.cellsIn fun a => ∃ id ∈ ids, MessageCell m id a).ncard, 0⟩ := by
  induction ids generalizing s with
  | nil => simp [deleteEach, MemoryStore.cellsIn]
  | cons id ids ih =>
    have hdeleted : ∀ a, ((delete m id).run s).2.find? a =
        if MessageCell m id a then none else s.find? a := find?_run_delete s m id
    rw [deleteEach, Script.run_bind, Script.run_bind, ih, run_delete_answer,
      length_cellRows_eq_ncard]
    simp only [List.exists_mem_cons_iff]
    rw [← MemoryStore.ncard_cellsIn_add hdeleted]
    rfl

end Each

def RangesCell (m : MailboxId) (ranges : List IdRange) (a : CellAddress) : Prop :=
  ∃ r ∈ ranges, ∃ id ∈ r, MessageCell m id a

section Ranges

variable {m : MailboxId} {ranges : List IdRange}

theorem rangesCell_iff {a : CellAddress} :
    RangesCell m ranges a ↔ ∃ id ∈ IdRange.allIds ranges, MessageCell m id a := by
  constructor
  · rintro ⟨r, hr, id, hid, ha⟩
    exact ⟨id, IdRange.mem_allIds.2 ⟨r, hr, hid⟩, ha⟩
  · rintro ⟨id, hid, ha⟩
    obtain ⟨r, hr, hid⟩ := IdRange.mem_allIds.1 hid
    exact ⟨r, hr, id, hid, ha⟩

instance : DecidablePred (RangesCell m ranges) := fun _ => decidable_of_iff' _ rangesCell_iff

theorem rangesCell_of_perm {ranges' : List IdRange} (h : ranges'.Perm ranges) :
    RangesCell m ranges' = RangesCell m ranges := by
  funext a
  rw [RangesCell, RangesCell]
  simp only [h.mem_iff]

variable (m ranges) (s : MemoryStore)

theorem find?_run_deleteMany (a : CellAddress) :
    ((deleteMany m ranges).run s).2.find? a =
      if RangesCell m ranges a then none else s.find? a := by
  rw [deleteMany, find?_run_deleteEach]
  exact if_congr rangesCell_iff.symm rfl rfl

theorem run_deleteMany_answer :
    ((deleteMany m ranges).run s).1 = ⟨(s.cellsIn (RangesCell m ranges)).ncard, 0⟩ := by
  rw [deleteMany, run_deleteEach_answer]
  simp only [← rangesCell_iff]

end Ranges

/-- Deleting the messages of some ranges takes away all of their cells and no others, and counts
each cell once. The order of the ranges makes no difference. -/
theorem deleteMany_removes_union {σ : Type} [RowStore σ] {k : σ} {s : MemoryStore}
    (hk : RowStore.AnswersAs k s) (m : MailboxId) (ranges : List IdRange) :
    let area := RangesCell m ranges
    let deleted := (deleteMany m ranges).run k
    deleted.1 = ⟨(s.cellsIn area).ncard, 0⟩ ∧
      ∃ s', RowStore.AnswersAs deleted.2 s' ∧ s'.cellsIn area = ∅ ∧ AgreeOn (¬ area ·) s s' ∧
        ∀ ranges' : List IdRange, ranges'.Perm ranges →
          let reordered := (deleteMany m ranges').run k
          reordered.1 = deleted.1 ∧ RowStore.AnswersAs reordered.2 s' := by
  intro area deleted
  have hfind := find?_run_deleteMany m ranges s
  refine ⟨?_, _, hk.run _, MemoryStore.cellsIn_of_cleared hfind,
    MemoryStore.agreeOn_of_cleared hfind, fun ranges' hperm => ⟨?_, ?_⟩⟩
  · rw [hk, run_deleteMany_answer]
  · rw [hk, run_deleteMany_answer, rangesCell_of_perm hperm, ← run_deleteMany_answer, ← hk]
  · refine RowStore.AnswersAs.of_find?_eq (hk.run _) fun a => ?_
    rw [find?_run_deleteMany, hfind]
    exact if_congr (by rw [rangesCell_of_perm hperm]) rfl rfl

theorem deleteMany_removes_union_of_overlapping :
    let ranges : List IdRange := [⟨7, 8⟩, ⟨9, 7⟩, ⟨7, 7⟩]
    RowStore.AnswersAs besideOthers besideOthers ∧
      ((deleteMany (.ofNat 7) ranges).run besideOthers).1 = ⟨3, 0⟩ ∧
      (besideOthers.cellsIn (RangesCell (.ofNat 7) ranges)).ncard = 3 ∧
      ranges.reverse.Perm ranges ∧
      ∃ s', RowStore.AnswersAs ((deleteMany (.ofNat 7) ranges.reverse).run besideOthers).2 s' ∧
        s'.find? (flagsCell (.ofNat 8) 7) = besideOthers.find? (flagsCell (.ofNat 8) 7) := by
  intro ranges
  have hperm : ranges.reverse.Perm ranges := ranges.reverse_perm
  have hreport : ((deleteMany (.ofNat 7) ranges).run besideOthers).1 = ⟨3, 0⟩ := by decide +kernel
  have hother : ¬ RangesCell (.ofNat 7) ranges (flagsCell (.ofNat 8) 7) := by decide +kernel
  obtain ⟨hcount, s', -, -, hagree, hreordered⟩ :=
    deleteMany_removes_union (RowStore.AnswersAs.refl besideOthers) (.ofNat 7) ranges
  rw [hreport] at hcount
  exact ⟨RowStore.AnswersAs.refl _, hreport, (congrArg DeleteReport.removed hcount).symm, hperm, s',
    (hreordered _ hperm).2, (hagree _ hother).symm⟩

end MailIndex.Index
