import MailIndex.Proofs.Store.Script
import MailIndex.Store.Faulty

namespace MailIndex

namespace Script

variable {α β : Type}

/-- The results that work may come to on a store in memory, and the stores that it may leave, if
some calls may fail. A call that fails changes nothing; a scan may show some rows before it does. -/
def Ends (mayFail : StoreCall → Prop) : Script α → MemoryStore → α → MemoryStore → Prop
  | done result, s, r, s' => r = result ∧ s' = s
  | put a value next, s, r, s' =>
    Ends mayFail (next (.ok ())) (s.insert a value) r s' ∨
      mayFail .put ∧ ∃ cause, Ends mayFail (next (.error cause)) s r s'
  | get a next, s, r, s' =>
    Ends mayFail (next (.ok (s.find? a))) s r s' ∨
      mayFail .get ∧ ∃ cause, Ends mayFail (next (.error cause)) s r s'
  | delete a next, s, r, s' =>
    Ends mayFail (next (.ok (s.find? a).isSome)) (s.erase a) r s' ∨
      mayFail .delete ∧ ∃ cause, Ends mayFail (next (.error cause)) s r s'
  | scan family start matcher next, s, r, s' =>
    Ends mayFail (next ⟨s.rowsFrom family start matcher, none⟩) s r s' ∨
      mayFail .scan ∧ ∃ rows cause, rows <+: s.rowsFrom family start matcher ∧
        Ends mayFail (next ⟨rows, some cause⟩) s r s'
  | collectIds family start matcher next, s, r, s' =>
    Ends mayFail (next (.ok (s.collect family start matcher))) s r s' ∨
      mayFail .scan ∧ ∃ cause, Ends mayFail (next (.error cause)) s r s'

variable {mayFail : StoreCall → Prop} {s s' : MemoryStore}

theorem ends_pure_iff {a r : α} : (pure a : Script α).Ends mayFail s r s' ↔ r = a ∧ s' = s :=
  Iff.rfl

theorem ends_bind_iff {x : Script α} {f : α → Script β} {r : β} :
    (x >>= f).Ends mayFail s r s' ↔
      ∃ a between, x.Ends mayFail s a between ∧ (f a).Ends mayFail between r s' := by
  change (x.bind f).Ends mayFail s r s' ↔ _
  induction x generalizing s with
  | done a => simp [Script.bind, Ends]
  | put a value next ih => simp only [Script.bind, Ends, ih]; grind
  | get a next ih => simp only [Script.bind, Ends, ih]; grind
  | delete a next ih => simp only [Script.bind, Ends, ih]; grind
  | scan family start matcher next ih => simp only [Script.bind, Ends, ih]; grind
  | collectIds family start matcher next ih => simp only [Script.bind, Ends, ih]; grind

section Calls

variable {a : CellAddress} {family start value : Bytes} {matcher : Matcher}

theorem ends_putCell_iff {r : Except StoreError Unit} :
    (putCell a value).Ends mayFail s r s' ↔
      r = .ok () ∧ s' = s.insert a value ∨ (mayFail .put ∧ ∃ cause, r = .error cause) ∧ s' = s := by
  simp only [putCell, Ends, and_assoc, exists_and_right]

theorem ends_getCell_iff {r : Except StoreError (Option Bytes)} :
    (getCell a).Ends mayFail s r s' ↔
      (r = .ok (s.find? a) ∨ mayFail .get ∧ ∃ cause, r = .error cause) ∧ s' = s := by
  simp only [getCell, Ends, exists_and_right, or_and_right, and_assoc]

theorem ends_deleteCell_iff {r : Except StoreError Bool} :
    (deleteCell a).Ends mayFail s r s' ↔
      r = .ok (s.find? a).isSome ∧ s' = s.erase a ∨
        (mayFail .delete ∧ ∃ cause, r = .error cause) ∧ s' = s := by
  simp only [deleteCell, Ends, and_assoc, exists_and_right]

theorem ends_scanRows_iff {r : Scan} :
    (scanRows family start matcher).Ends mayFail s r s' ↔
      (r = ⟨s.rowsFrom family start matcher, none⟩ ∨
        mayFail .scan ∧ ∃ rows cause, rows <+: s.rowsFrom family start matcher ∧
          r = ⟨rows, some cause⟩) ∧ s' = s := by
  simp only [scanRows, Ends]
  grind

theorem ends_collect_iff {r : Except StoreError IdSet} :
    (collect family start matcher).Ends mayFail s r s' ↔
      (r = .ok (s.collect family start matcher) ∨ mayFail .scan ∧ ∃ cause, r = .error cause) ∧
        s' = s := by
  simp only [collect, Ends, exists_and_right, or_and_right, and_assoc]

end Calls

end Script

structure RowStore.StepsEnd {σ : Type} [RowStore σ] (mayFail : StoreCall → Prop)
    (cells : σ → MemoryStore) (inv : σ → Prop) : Prop where
  put : ∀ k a value, inv k →
    (Script.putCell a value).Ends mayFail (cells k) (RowStore.put k a value).1
      (cells (RowStore.put k a value).2) ∧ inv (RowStore.put k a value).2
  get : ∀ k a, inv k →
    (Script.getCell a).Ends mayFail (cells k) (RowStore.get k a).1 (cells (RowStore.get k a).2) ∧
      inv (RowStore.get k a).2
  delete : ∀ k a, inv k →
    (Script.deleteCell a).Ends mayFail (cells k) (RowStore.delete k a).1
      (cells (RowStore.delete k a).2) ∧ inv (RowStore.delete k a).2
  scan : ∀ k family start matcher, inv k →
    (Script.scanRows family start matcher).Ends mayFail (cells k)
      (RowStore.scan k family start matcher) (cells k)
  collectIds : ∀ k family start matcher, inv k →
    (Script.collect family start matcher).Ends mayFail (cells k)
      (RowStore.collectIds k family start matcher) (cells k)

theorem RowStore.StepsEnd.ends_run {σ α : Type} [RowStore σ] {mayFail : StoreCall → Prop}
    {cells : σ → MemoryStore} {inv : σ → Prop} (h : StepsEnd mayFail cells inv) {k : σ}
    (hk : inv k) (x : Script α) :
    x.Ends mayFail (cells k) (x.run k).1 (cells (x.run k).2) ∧ inv (x.run k).2 := by
  induction x generalizing k with
  | done result => exact ⟨⟨rfl, rfl⟩, hk⟩
  | put a value next ih =>
    obtain ⟨hcall, hinv⟩ := h.put k a value hk
    exact ⟨Script.ends_bind_iff.2 ⟨_, _, hcall, (ih _ hinv).1⟩, (ih _ hinv).2⟩
  | get a next ih =>
    obtain ⟨hcall, hinv⟩ := h.get k a hk
    exact ⟨Script.ends_bind_iff.2 ⟨_, _, hcall, (ih _ hinv).1⟩, (ih _ hinv).2⟩
  | delete a next ih =>
    obtain ⟨hcall, hinv⟩ := h.delete k a hk
    exact ⟨Script.ends_bind_iff.2 ⟨_, _, hcall, (ih _ hinv).1⟩, (ih _ hinv).2⟩
  | scan family start matcher next ih =>
    have hcall := h.scan k family start matcher hk
    exact ⟨Script.ends_bind_iff.2 ⟨_, _, hcall, (ih _ hk).1⟩, (ih _ hk).2⟩
  | collectIds family start matcher next ih =>
    have hcall := h.collectIds k family start matcher hk
    exact ⟨Script.ends_bind_iff.2 ⟨_, _, hcall, (ih _ hk).1⟩, (ih _ hk).2⟩

namespace Faults

def MayFail (faults : Faults) : StoreCall → Prop
  | .put => faults.put ≠ .none
  | .get => faults.get ≠ .none
  | .delete => faults.delete ≠ .none
  | .scan => faults.scan ≠ .none

theorem spend_eq_true {n left : Option Nat} (h : spend n = (true, left)) :
    left ≠ .none → n ≠ .none := by
  rintro hleft rfl
  cases h
  exact hleft rfl

theorem spend_eq_false {n left : Option Nat} (h : spend n = (false, left)) : n ≠ .none := by
  rintro rfl
  cases h

theorem limit_eq (n : Option Nat) (rows : List Row) :
    limit n ⟨rows, .none⟩ = ⟨rows, .none⟩ ∨
      n ≠ .none ∧ ∃ shown cause, shown <+: rows ∧ limit n ⟨rows, .none⟩ = ⟨shown, some cause⟩ := by
  cases n with
  | none => exact .inl rfl
  | some n =>
    rw [limit]
    split
    · exact .inl rfl
    · exact .inr ⟨nofun, _, _, List.take_prefix n rows, rfl⟩

end Faults

namespace FaultyStore

def shown (k : FaultyStore) (family start : Bytes) (matcher : Matcher) : Scan :=
  Faults.limit k.faults.scan ⟨k.cells.rowsFrom family start matcher, none⟩

section Scan

variable (k : FaultyStore) (family start : Bytes) (matcher : Matcher)

theorem scan_eq : RowStore.scan k family start matcher = k.shown family start matcher :=
  RowStore.scan_eq_of_visit fun _ => rfl

theorem collectIds_eq : RowStore.collectIds k family start matcher =
    (k.shown family start matcher).toRows.map
      fun rows => rows.foldl (fun found row => row.harvest found) ∅ := by
  simp only [RowStore.collectIds, Scan.visit_next, shown]
  generalize Faults.limit k.faults.scan ⟨k.cells.rowsFrom family start matcher, none⟩ = s
  obtain ⟨rows, _ | failure⟩ := s <;> rfl

end Scan

theorem put_cases (k : FaultyStore) (a : CellAddress) (value : Bytes) :
    (∃ left, (left ≠ .none → k.faults.put ≠ .none) ∧
      RowStore.put k a value =
        (.ok (), ⟨k.cells.insert a value, { k.faults with put := left }⟩)) ∨
    k.faults.put ≠ .none ∧ RowStore.put k a value = (.error (.injected .put), k) := by
  rcases hspend : Faults.spend k.faults.put with ⟨_ | _, left⟩
  · exact .inr ⟨Faults.spend_eq_false hspend, by simp [RowStore.put, hspend]⟩
  · exact .inl ⟨left, Faults.spend_eq_true hspend, by simp [RowStore.put, hspend]⟩

theorem get_cases (k : FaultyStore) (a : CellAddress) :
    (∃ left, (left ≠ .none → k.faults.get ≠ .none) ∧
      RowStore.get k a = (.ok (k.cells.find? a), ⟨k.cells, { k.faults with get := left }⟩)) ∨
    k.faults.get ≠ .none ∧ RowStore.get k a = (.error (.injected .get), k) := by
  rcases hspend : Faults.spend k.faults.get with ⟨_ | _, left⟩
  · exact .inr ⟨Faults.spend_eq_false hspend, by simp [RowStore.get, hspend]⟩
  · exact .inl ⟨left, Faults.spend_eq_true hspend, by simp [RowStore.get, hspend]⟩

theorem delete_cases (k : FaultyStore) (a : CellAddress) :
    (∃ left, (left ≠ .none → k.faults.delete ≠ .none) ∧
      RowStore.delete k a =
        (.ok (k.cells.find? a).isSome, ⟨k.cells.erase a, { k.faults with delete := left }⟩)) ∨
    k.faults.delete ≠ .none ∧ RowStore.delete k a = (.error (.injected .delete), k) := by
  rcases hspend : Faults.spend k.faults.delete with ⟨_ | _, left⟩
  · exact .inr ⟨Faults.spend_eq_false hspend, by simp [RowStore.delete, hspend]⟩
  · exact .inl ⟨left, Faults.spend_eq_true hspend, by simp [RowStore.delete, hspend]⟩

theorem run_mk_none {α : Type} (x : Script α) (s : MemoryStore) :
    x.run (⟨s, .none⟩ : FaultyStore) = ((x.run s).1, ⟨(x.run s).2, .none⟩) := by
  induction x generalizing s with
  | done result => rfl
  | put a value next ih => exact ih _ _
  | get a next ih => exact ih _ _
  | delete a next ih => exact ih _ _
  | scan family start matcher next ih =>
    rw [Script.run, Script.run, scan_eq, MemoryStore.scan_eq]
    exact ih _ s
  | collectIds family start matcher next ih =>
    have hcollect : RowStore.collectIds (⟨s, .none⟩ : FaultyStore) family start matcher =
        RowStore.collectIds s family start matcher := by
      rw [collectIds_eq]
      exact congrArg Except.ok (s.collect_eq_foldl family start matcher).symm
    rw [Script.run, Script.run, hcollect]
    exact ih _ s

def Within (mayFail : StoreCall → Prop) (k : FaultyStore) : Prop :=
  ∀ call, k.faults.MayFail call → mayFail call

variable {α : Type} {mayFail : StoreCall → Prop}

theorem stepsEnd : RowStore.StepsEnd mayFail cells (Within mayFail) where
  put k a value h := by
    rcases k.put_cases a value with ⟨left, hleft, hput⟩ | ⟨hfail, hput⟩
    · rw [hput]
      refine ⟨Script.ends_putCell_iff.2 (.inl ⟨rfl, rfl⟩), fun call hcall => ?_⟩
      cases call with
      | put => exact h .put (hleft hcall)
      | _ => exact h _ hcall
    · rw [hput]
      exact ⟨Script.ends_putCell_iff.2 (.inr ⟨⟨h .put hfail, _, rfl⟩, rfl⟩), h⟩
  get k a h := by
    rcases k.get_cases a with ⟨left, hleft, hget⟩ | ⟨hfail, hget⟩
    · rw [hget]
      refine ⟨Script.ends_getCell_iff.2 ⟨.inl rfl, rfl⟩, fun call hcall => ?_⟩
      cases call with
      | get => exact h .get (hleft hcall)
      | _ => exact h _ hcall
    · rw [hget]
      exact ⟨Script.ends_getCell_iff.2 ⟨.inr ⟨h .get hfail, _, rfl⟩, rfl⟩, h⟩
  delete k a h := by
    rcases k.delete_cases a with ⟨left, hleft, hdelete⟩ | ⟨hfail, hdelete⟩
    · rw [hdelete]
      refine ⟨Script.ends_deleteCell_iff.2 (.inl ⟨rfl, rfl⟩), fun call hcall => ?_⟩
      cases call with
      | delete => exact h .delete (hleft hcall)
      | _ => exact h _ hcall
    · rw [hdelete]
      exact ⟨Script.ends_deleteCell_iff.2 (.inr ⟨⟨h .delete hfail, _, rfl⟩, rfl⟩), h⟩
  scan k family start matcher h := by
    rw [scan_eq, Script.ends_scanRows_iff]
    refine ⟨?_, rfl⟩
    rcases Faults.limit_eq k.faults.scan (k.cells.rowsFrom family start matcher) with
      hscan | ⟨hfail, rows, cause, hrows, hscan⟩
    · exact .inl hscan
    · exact .inr ⟨h .scan hfail, rows, cause, hrows, hscan⟩
  collectIds k family start matcher h := by
    rw [collectIds_eq, shown, Script.ends_collect_iff]
    refine ⟨?_, rfl⟩
    rcases Faults.limit_eq k.faults.scan (k.cells.rowsFrom family start matcher) with
      hscan | ⟨hfail, rows, cause, -, hscan⟩
    · rw [hscan, MemoryStore.collect_eq_foldl]
      exact .inl rfl
    · rw [hscan]
      exact .inr ⟨h .scan hfail, cause, rfl⟩

theorem Within.ends_run {k : FaultyStore} (h : k.Within mayFail) (x : Script α) :
    x.Ends mayFail k.cells (x.run k).1 (x.run k).2.cells ∧ (x.run k).2.Within mayFail :=
  stepsEnd.ends_run h x

end FaultyStore

theorem Script.ends_run {α : Type} (mayFail : StoreCall → Prop) (x : Script α) (s : MemoryStore) :
    x.Ends mayFail s (x.run s).1 (x.run s).2 := by
  have hwithin : FaultyStore.Within mayFail ⟨s, .none⟩ := by
    intro call hcall
    cases call <;> exact absurd rfl hcall
  have hends := (hwithin.ends_run x).1
  rwa [FaultyStore.run_mk_none] at hends

end MailIndex
