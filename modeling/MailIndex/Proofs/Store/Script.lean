import MailIndex.Proofs.Store.Memory
import MailIndex.Store.Script

namespace MailIndex

namespace Script

section Laws

variable {α β σ : Type} [RowStore σ] (s : σ)

@[simp] theorem run_pure (a : α) : (pure a : Script α).run s = (a, s) := rfl

@[simp] theorem run_bind (x : Script α) (f : α → Script β) :
    (x >>= f).run s = (f (x.run s).1).run (x.run s).2 := by
  change (x.bind f).run s = _
  induction x generalizing s with
  | done a => rfl
  | put a value next ih => exact ih _ _
  | get a next ih => exact ih _ _
  | delete a next ih => exact ih _ _
  | scan family start matcher next ih => exact ih _ _
  | collectIds family start matcher next ih => exact ih _ _

theorem run_get (a : CellAddress) (next : Except StoreError (Option Bytes) → Script α) :
    (get a next).run s = (next (RowStore.get s a).1).run (RowStore.get s a).2 := rfl

theorem run_delete (a : CellAddress) (next : Except StoreError Bool → Script α) :
    (delete a next).run s = (next (RowStore.delete s a).1).run (RowStore.delete s a).2 := rfl

end Laws

section Memory

variable (s : MemoryStore) (a : CellAddress) (family start : Bytes) (matcher : Matcher)

@[simp] theorem run_putCell (value : Bytes) :
    (putCell a value).run s = (.ok (), s.insert a value) := rfl

@[simp] theorem run_getCell : (getCell a).run s = (.ok (s.find? a), s) := rfl

@[simp] theorem run_deleteCell :
    (deleteCell a).run s = (.ok (s.find? a).isSome, s.erase a) := rfl

@[simp] theorem run_scanRows :
    (scanRows family start matcher).run s = (⟨s.rowsFrom family start matcher, none⟩, s) := by
  change (RowStore.scan s family start matcher, s) = _
  rw [MemoryStore.scan_eq]

@[simp] theorem run_collect :
    (collect family start matcher).run s = (.ok (s.collect family start matcher), s) := rfl

end Memory

end Script

theorem MemoryStore.NoEmptyRow.run {s : MemoryStore} (h : s.NoEmptyRow) {α : Type}
    (x : Script α) : (x.run s).2.NoEmptyRow := by
  induction x generalizing s with
  | done result => exact h
  | put a value next ih => exact ih _ (h.insert a value)
  | get a next ih => exact ih _ h
  | delete a next ih => exact ih _ (h.erase a)
  | scan family start matcher next ih => exact ih _ h
  | collectIds family start matcher next ih => exact ih _ h

/-- Whether the calls on a store are answered, now and later, as those on a store in memory. -/
def RowStore.AnswersAs {σ : Type} [RowStore σ] (k : σ) (s : MemoryStore) : Prop :=
  ∀ {α : Type} (x : Script α), (x.run k).1 = (x.run s).1

namespace RowStore.AnswersAs

variable {σ : Type} [RowStore σ] {k : σ} {s : MemoryStore}

theorem refl (s : MemoryStore) : AnswersAs s s := fun _ => rfl

theorem run (h : AnswersAs k s) {α : Type} (x : Script α) :
    AnswersAs (x.run k).2 (x.run s).2 := by
  intro β y
  have := h (x >>= fun _ => y)
  rwa [Script.run_bind, Script.run_bind] at this

end RowStore.AnswersAs

end MailIndex
