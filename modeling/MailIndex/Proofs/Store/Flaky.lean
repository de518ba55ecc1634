import MailIndex.Proofs.Store.Ends

namespace MailIndex

abbrev CallFaults := Nat → Option StoreError

namespace CallFaults

def later (f : CallFaults) : CallFaults := fun turn => f (turn + 1)

def attempt {α : Type} (f : CallFaults) (s : MemoryStore) (result : α) (changed : MemoryStore) :
    Except StoreError α × MemoryStore :=
  match f 0 with
  | none => (.ok result, changed)
  | some cause => (.error cause, s)

section Attempt

variable {α : Type} {f : CallFaults} (s : MemoryStore) (result : α) (changed : MemoryStore)

theorem attempt_of_eq_none (h : f 0 = none) :
    f.attempt s result changed = (.ok result, changed) := by
  rw [attempt, h]

theorem attempt_of_eq_some {cause : StoreError} (h : f 0 = some cause) :
    f.attempt s result changed = (.error cause, s) := by
  rw [attempt, h]

variable (f) in
theorem attempt_cases :
    f.attempt s result changed = (.ok result, changed) ∨
      (∃ turn, f turn ≠ none) ∧ ∃ cause, f.attempt s result changed = (.error cause, s) := by
  cases h : f 0 with
  | none => exact .inl (attempt_of_eq_none s result changed h)
  | some cause =>
    have hfails : f 0 ≠ none := by
      rw [h]
      nofun
    exact .inr ⟨⟨0, hfails⟩, cause, attempt_of_eq_some s result changed h⟩

end Attempt

end CallFaults

structure FaultPattern where
  put : CallFaults
  get : CallFaults
  delete : CallFaults
  scan : Option (Nat × StoreError)

namespace FaultPattern

def interrupt (p : FaultPattern) (rows : List Row) : Scan :=
  match p.scan with
  | none => ⟨rows, none⟩
  | some (n, cause) => ⟨rows.take n, some cause⟩

theorem interrupt_eq (p : FaultPattern) (rows : List Row) :
    p.interrupt rows = ⟨rows, none⟩ ∨
      p.scan ≠ none ∧ ∃ shown cause, shown <+: rows ∧ p.interrupt rows = ⟨shown, some cause⟩ := by
  rw [interrupt]
  cases p.scan with
  | none => exact .inl rfl
  | some fault => exact .inr ⟨nofun, _, _, List.take_prefix fault.1 rows, rfl⟩

def MayFail (p : FaultPattern) : StoreCall → Prop
  | .put => ∃ turn, p.put turn ≠ none
  | .get => ∃ turn, p.get turn ≠ none
  | .delete => ∃ turn, p.delete turn ≠ none
  | .scan => p.scan ≠ none

namespace MayFail

variable {p : FaultPattern} {call : StoreCall}

theorem of_later_put (h : MayFail { p with put := p.put.later } call) : p.MayFail call := by
  cases call with
  | put =>
    obtain ⟨turn, hturn⟩ := h
    exact ⟨turn + 1, hturn⟩
  | _ => exact h

theorem of_later_get (h : MayFail { p with get := p.get.later } call) : p.MayFail call := by
  cases call with
  | get =>
    obtain ⟨turn, hturn⟩ := h
    exact ⟨turn + 1, hturn⟩
  | _ => exact h

theorem of_later_delete (h : MayFail { p with delete := p.delete.later } call) :
    p.MayFail call := by
  cases call with
  | delete =>
    obtain ⟨turn, hturn⟩ := h
    exact ⟨turn + 1, hturn⟩
  | _ => exact h

end MayFail

end FaultPattern

structure FlakyStore where
  cells : MemoryStore
  faults : FaultPattern

namespace FlakyStore

instance : RowStore FlakyStore where
  put k a value :=
    let (answer, cells) := k.faults.put.attempt k.cells () (k.cells.insert a value)
    (answer, ⟨cells, { k.faults with put := k.faults.put.later }⟩)
  get k a :=
    let (answer, cells) := k.faults.get.attempt k.cells (k.cells.find? a) k.cells
    (answer, ⟨cells, { k.faults with get := k.faults.get.later }⟩)
  delete k a :=
    let (answer, cells) :=
      k.faults.delete.attempt k.cells (k.cells.find? a).isSome (k.cells.erase a)
    (answer, ⟨cells, { k.faults with delete := k.faults.delete.later }⟩)
  visit k family start matcher visitor state :=
    (k.faults.interrupt (k.cells.rowsFrom family start matcher)).visit visitor state

section Calls

variable (k : FlakyStore) (a : CellAddress) (value : Bytes)

theorem put_eq :
    RowStore.put k a value =
      ((k.faults.put.attempt k.cells () (k.cells.insert a value)).1,
        ⟨(k.faults.put.attempt k.cells () (k.cells.insert a value)).2,
          { k.faults with put := k.faults.put.later }⟩) := rfl

theorem get_eq :
    RowStore.get k a =
      ((k.faults.get.attempt k.cells (k.cells.find? a) k.cells).1,
        ⟨(k.faults.get.attempt k.cells (k.cells.find? a) k.cells).2,
          { k.faults with get := k.faults.get.later }⟩) := rfl

theorem delete_eq :
    RowStore.delete k a =
      ((k.faults.delete.attempt k.cells (k.cells.find? a).isSome (k.cells.erase a)).1,
        ⟨(k.faults.delete.attempt k.cells (k.cells.find? a).isSome (k.cells.erase a)).2,
          { k.faults with delete := k.faults.delete.later }⟩) := rfl

theorem fst_get_of_eq_none (h : k.faults.get 0 = none) :
    (RowStore.get k a).1 = .ok (k.cells.find? a) := by
  rw [get_eq, CallFaults.attempt_of_eq_none _ _ _ h]

theorem fst_get_of_eq_some {cause : StoreError} (h : k.faults.get 0 = some cause) :
    (RowStore.get k a).1 = .error cause := by
  rw [get_eq, CallFaults.attempt_of_eq_some _ _ _ h]

theorem isOk_put : (RowStore.put k a value).1.isOk = (k.faults.put 0).isNone := by
  rw [put_eq, CallFaults.attempt]
  cases k.faults.put 0 <;> rfl

end Calls

section Scan

variable (k : FlakyStore) (family start : Bytes) (matcher : Matcher)

theorem scan_eq :
    RowStore.scan k family start matcher =
      k.faults.interrupt (k.cells.rowsFrom family start matcher) :=
  RowStore.scan_eq_of_visit fun _ => rfl

theorem run_scanRows :
    (Script.scanRows family start matcher).run k =
      (k.faults.interrupt (k.cells.rowsFrom family start matcher), k) :=
  congrArg (·, k) (scan_eq k family start matcher)

theorem collectIds_eq : RowStore.collectIds k family start matcher =
    (k.faults.interrupt (k.cells.rowsFrom family start matcher)).toRows.map
      fun rows => rows.foldl (fun found row => row.harvest found) ∅ := by
  simp only [RowStore.collectIds, Scan.visit_next]
  generalize k.faults.interrupt (k.cells.rowsFrom family start matcher) = s
  obtain ⟨rows, _ | failure⟩ := s <;> rfl

end Scan

def Within (mayFail : StoreCall → Prop) (k : FlakyStore) : Prop :=
  ∀ call, k.faults.MayFail call → mayFail call

variable {mayFail : StoreCall → Prop}

theorem stepsEnd : RowStore.StepsEnd mayFail cells (Within mayFail) where
  put k a value h := by
    refine ⟨?_, fun call hcall => h call hcall.of_later_put⟩
    rw [put_eq, Script.ends_putCell_iff]
    rcases k.faults.put.attempt_cases k.cells () (k.cells.insert a value) with
      hput | ⟨hfails, cause, hput⟩
    · rw [hput]
      exact .inl ⟨rfl, rfl⟩
    · rw [hput]
      exact .inr ⟨⟨h .put hfails, cause, rfl⟩, rfl⟩
  get k a h := by
    refine ⟨?_, fun call hcall => h call hcall.of_later_get⟩
    rw [get_eq, Script.ends_getCell_iff]
    rcases k.faults.get.attempt_cases k.cells (k.cells.find? a) k.cells with
      hget | ⟨hfails, cause, hget⟩
    · rw [hget]
      exact ⟨.inl rfl, rfl⟩
    · rw [hget]
      exact ⟨.inr ⟨h .get hfails, cause, rfl⟩, rfl⟩
  delete k a h := by
    refine ⟨?_, fun call hcall => h call hcall.of_later_delete⟩
    rw [delete_eq, Script.ends_deleteCell_iff]
    rcases k.faults.delete.attempt_cases k.cells (k.cells.find? a).isSome (k.cells.erase a) with
      hdelete | ⟨hfails, cause, hdelete⟩
    · rw [hdelete]
      exact .inl ⟨rfl, rfl⟩
    · rw [hdelete]
      exact .inr ⟨⟨h .delete hfails, cause, rfl⟩, rfl⟩
  scan k family start matcher h := by
    rw [scan_eq, Script.ends_scanRows_iff]
    refine ⟨?_, rfl⟩
    rcases k.faults.interrupt_eq (k.cells.rowsFrom family start matcher) with
      hscan | ⟨hfail, rows, cause, hrows, hscan⟩
    · exact .inl hscan
    · exact .inr ⟨h .scan hfail, rows, cause, hrows, hscan⟩
  collectIds k family start matcher h := by
    rw [collectIds_eq, Script.ends_collect_iff]
    refine ⟨?_, rfl⟩
    rcases k.faults.interrupt_eq (k.cells.rowsFrom family start matcher) with
      hscan | ⟨hfail, rows, cause, -, hscan⟩
    · rw [hscan, MemoryStore.collect_eq_foldl]
      exact .inl rfl
    · rw [hscan]
      exact .inr ⟨h .scan hfail, cause, rfl⟩

end FlakyStore

end MailIndex
