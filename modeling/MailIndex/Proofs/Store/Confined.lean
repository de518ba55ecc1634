import Mathlib.Data.Set.Card
import MailIndex.Proofs.Store.Script

/-! Work that keeps to some of the cells: what it may depend on, and what it may change. -/

namespace MailIndex

def MemoryStore.AgreeOn (area : CellAddress → Prop) (s t : MemoryStore) : Prop :=
  ∀ a, area a → s.find? a = t.find? a

def MemoryStore.cellsIn (s : MemoryStore) (area : CellAddress → Prop) : Set CellAddress :=
  {a | area a ∧ (s.find? a).isSome = true}

def Filter.ShowsOnly (matcher : Matcher) (area : CellAddress → Prop) (family start : Bytes) :
    Prop :=
  ∀ row c, start <+: row → matcher.holds row c = true → area ⟨family, row, c.qualifier⟩

namespace MemoryStore.AgreeOn

variable {area area' : CellAddress → Prop} {s t u : MemoryStore} {a : CellAddress}

theorem refl (area : CellAddress → Prop) (s : MemoryStore) : AgreeOn area s s := fun _ _ => rfl

theorem symm (h : AgreeOn area s t) : AgreeOn area t s := fun a ha => (h a ha).symm

theorem trans (h : AgreeOn area s t) (h' : AgreeOn area t u) : AgreeOn area s u :=
  fun a ha => (h a ha).trans (h' a ha)

theorem mono (h : AgreeOn area s t) (hsub : ∀ a, area' a → area a) : AgreeOn area' s t :=
  fun a ha => h a (hsub a ha)

theorem insert (h : AgreeOn area s t) (a : CellAddress) (value : Bytes) :
    AgreeOn area (s.insert a value) (t.insert a value) := by
  intro b hb
  rw [find?_insert, find?_insert, h b hb]

theorem erase (h : AgreeOn area s t) (a : CellAddress) :
    AgreeOn area (s.erase a) (t.erase a) := by
  intro b hb
  rw [find?_erase, find?_erase, h b hb]

theorem insert_self (ha : ¬ area a) (s : MemoryStore) (value : Bytes) :
    AgreeOn area s (s.insert a value) := by
  intro b hb
  have hne : b ≠ a := by
    rintro rfl
    exact ha hb
  rw [find?_insert, if_neg hne]

theorem erase_self (ha : ¬ area a) (s : MemoryStore) : AgreeOn area s (s.erase a) := by
  intro b hb
  have hne : b ≠ a := by
    rintro rfl
    exact ha hb
  rw [find?_erase, if_neg hne]

theorem rowsFrom_eq (h : AgreeOn area s t) {family start : Bytes} {matcher : Matcher}
    (hshows : matcher.ShowsOnly area family start) :
    s.rowsFrom family start matcher = t.rowsFrom family start matcher :=
  rowsFrom_congr fun row c hrow hc => h _ (hshows row c hrow hc)

end MemoryStore.AgreeOn

namespace MemoryStore

theorem finite_cellsIn (s : MemoryStore) (area : CellAddress → Prop) : (s.cellsIn area).Finite :=
  s.addresses.finite_toSet.subset fun _ ha => mem_addresses_of_isSome ha.2

section Cleared

variable {s t : MemoryStore} {area : CellAddress → Prop} [DecidablePred area]
  (h : ∀ a, t.find? a = if area a then none else s.find? a)
include h

theorem cellsIn_of_cleared : t.cellsIn area = ∅ := by
  refine Set.eq_empty_of_forall_notMem fun a ha => ?_
  obtain ⟨harea, hsome⟩ := ha
  rw [h, if_pos harea] at hsome
  cases hsome

theorem agreeOn_of_cleared : AgreeOn (¬ area ·) s t := by
  intro a ha
  rw [h, if_neg ha]

theorem ncard_cellsIn_add (rest : CellAddress → Prop) :
    (s.cellsIn area).ncard + (t.cellsIn rest).ncard =
      (s.cellsIn fun a => area a ∨ rest a).ncard := by
  have hunion : s.cellsIn (fun a => area a ∨ rest a) = s.cellsIn area ∪ t.cellsIn rest := by
    ext a
    simp only [cellsIn, Set.mem_union, Set.mem_ofPred_eq, h]
    by_cases ha : area a <;> simp [ha]
  have hdisjoint : Disjoint (s.cellsIn area) (t.cellsIn rest) := by
    rw [Set.disjoint_left]
    intro a ha hrest
    have hnone : a ∈ t.cellsIn area := ⟨ha.1, hrest.2⟩
    rw [cellsIn_of_cleared h] at hnone
    exact hnone
  rw [hunion, Set.ncard_union_eq hdisjoint (s.finite_cellsIn area) (t.finite_cellsIn rest)]

end Cleared

end MemoryStore

namespace Script

open MemoryStore (AgreeOn)

variable {α β : Type}

def step {σ : Type} [RowStore σ] : Script α → σ → Script α × σ
  | done result, s => (done result, s)
  | put a value next, s =>
    let (answer, s) := RowStore.put s a value
    (next answer, s)
  | get a next, s =>
    let (answer, s) := RowStore.get s a
    (next answer, s)
  | delete a next, s =>
    let (answer, s) := RowStore.delete s a
    (next answer, s)
  | scan family start matcher next, s => (next (RowStore.scan s family start matcher), s)
  | collectIds family start matcher next, s =>
    (next (RowStore.collectIds s family start matcher), s)

theorem run_step {σ : Type} [RowStore σ] (x : Script α) (s : σ) :
    (x.step s).1.run (x.step s).2 = x.run s := by
  cases x <;> rfl

theorem step_induction {σ : Type} [RowStore σ] {motive : Script α → σ → Prop}
    (done : ∀ result s, motive (.done result) s)
    (step : ∀ x s, motive (x.step s).1 (x.step s).2 → motive x s) (x : Script α) (s : σ) :
    motive x s := by
  induction x generalizing s with
  | done result => exact done result s
  | put a value next ih => exact step _ s (ih _ _)
  | get a next ih => exact step _ s (ih _ _)
  | delete a next ih => exact step _ s (ih _ _)
  | scan family start matcher next ih => exact step _ s (ih _ _)
  | collectIds family start matcher next ih => exact step _ s (ih _ _)

def Confined (area : CellAddress → Prop) : Script α → Prop
  | done _ => True
  | put a _ next => area a ∧ ∀ answer, (next answer).Confined area
  | get a next => area a ∧ ∀ answer, (next answer).Confined area
  | delete a next => area a ∧ ∀ answer, (next answer).Confined area
  | scan family start matcher next =>
    matcher.ShowsOnly area family start ∧
      ∀ shown : Scan, (∀ r ∈ shown.rows, start <+: r.key) → (next shown).Confined area
  | collectIds family start matcher next =>
    matcher.ShowsOnly area family start ∧ ∀ answer, (next answer).Confined area

namespace Confined

variable {area area' : CellAddress → Prop} {x : Script α} {y : Script β}

theorem mono (h : x.Confined area) (hsub : ∀ a, area a → area' a) : x.Confined area' := by
  induction x with
  | done result => trivial
  | put a value next ih => exact ⟨hsub a h.1, fun answer => ih answer (h.2 answer)⟩
  | get a next ih => exact ⟨hsub a h.1, fun answer => ih answer (h.2 answer)⟩
  | delete a next ih => exact ⟨hsub a h.1, fun answer => ih answer (h.2 answer)⟩
  | scan family start matcher next ih =>
    exact ⟨fun row c hrow hc => hsub _ (h.1 row c hrow hc),
      fun shown hshown => ih shown (h.2 shown hshown)⟩
  | collectIds family start matcher next ih =>
    exact ⟨fun row c hrow hc => hsub _ (h.1 row c hrow hc),
      fun answer => ih answer (h.2 answer)⟩

theorem bind {f : α → Script β} (h : x.Confined area) (hf : ∀ r, (f r).Confined area) :
    (x >>= f).Confined area := by
  change (x.bind f).Confined area
  induction x with
  | done result => exact hf result
  | put a value next ih => exact ⟨h.1, fun answer => ih answer (h.2 answer)⟩
  | get a next ih => exact ⟨h.1, fun answer => ih answer (h.2 answer)⟩
  | delete a next ih => exact ⟨h.1, fun answer => ih answer (h.2 answer)⟩
  | scan family start matcher next ih =>
    exact ⟨h.1, fun shown hshown => ih shown (h.2 shown hshown)⟩
  | collectIds family start matcher next ih => exact ⟨h.1, fun answer => ih answer (h.2 answer)⟩

section Calls

variable {a : CellAddress} {family start : Bytes} {matcher : Matcher}

theorem putCell (ha : area a) (value : Bytes) : (Script.putCell a value).Confined area :=
  ⟨ha, fun _ => trivial⟩

theorem getCell (ha : area a) : (Script.getCell a).Confined area := ⟨ha, fun _ => trivial⟩

theorem deleteCell (ha : area a) : (Script.deleteCell a).Confined area := ⟨ha, fun _ => trivial⟩

variable (hshows : matcher.ShowsOnly area family start)
include hshows

theorem collect : (Script.collect family start matcher).Confined area :=
  ⟨hshows, fun _ => trivial⟩

theorem scanRows_bind {f : Scan → Script α}
    (hf : ∀ shown : Scan, (∀ r ∈ shown.rows, start <+: r.key) → (f shown).Confined area) :
    (Script.scanRows family start matcher >>= f).Confined area :=
  ⟨hshows, hf⟩

end Calls

section Step

variable (h : x.Confined area) (s : MemoryStore)
include h

theorem step : (x.step s).1.Confined area := by
  cases x with
  | done result => trivial
  | put a value next => exact h.2 _
  | get a next => exact h.2 _
  | delete a next => exact h.2 _
  | scan family start matcher next =>
    refine h.2 _ fun r hr => ?_
    rw [MemoryStore.scan_eq] at hr
    exact (MemoryStore.mem_rowsFrom hr).2.1
  | collectIds family start matcher next => exact h.2 _

theorem agreeOn_step : AgreeOn (¬ area ·) s (x.step s).2 := by
  cases x with
  | put a value next => exact .insert_self (not_not_intro h.1) s value
  | delete a next => exact .erase_self (not_not_intro h.1) s
  | _ => exact .refl _ s

theorem step_congr {t : MemoryStore} (hst : AgreeOn area s t) :
    (x.step s).1 = (x.step t).1 ∧ AgreeOn area (x.step s).2 (x.step t).2 := by
  cases x with
  | done result => exact ⟨rfl, hst⟩
  | put a value next => exact ⟨rfl, hst.insert a value⟩
  | get a next =>
    refine ⟨?_, hst⟩
    change next (.ok (s.find? a)) = next (.ok (t.find? a))
    rw [hst a h.1]
  | delete a next =>
    refine ⟨?_, hst.erase a⟩
    change next (.ok (s.find? a).isSome) = next (.ok (t.find? a).isSome)
    rw [hst a h.1]
  | scan family start matcher next =>
    refine ⟨?_, hst⟩
    change next (RowStore.scan s family start matcher) = next (RowStore.scan t family start matcher)
    rw [MemoryStore.scan_eq, MemoryStore.scan_eq, hst.rowsFrom_eq h.1]
  | collectIds family start matcher next =>
    refine ⟨?_, hst⟩
    change next (.ok (s.collect family start matcher)) = next (.ok (t.collect family start matcher))
    rw [MemoryStore.collect_eq_foldl, MemoryStore.collect_eq_foldl, hst.rowsFrom_eq h.1]

end Step

section Run

variable (h : x.Confined area) (s : MemoryStore)
include h

theorem agreeOn_run : AgreeOn (¬ area ·) s (x.run s).2 := by
  induction x, s using step_induction with
  | done result s => exact .refl _ s
  | step x s ih =>
    rw [← run_step]
    exact (h.agreeOn_step s).trans (ih (h.step s))

theorem run_congr {t : MemoryStore} (hst : AgreeOn area s t) :
    (x.run s).1 = (x.run t).1 ∧ AgreeOn area (x.run s).2 (x.run t).2 := by
  induction x, s using step_induction generalizing t with
  | done result s => exact ⟨rfl, hst⟩
  | step x s ih =>
    obtain ⟨hnext, hcells⟩ := h.step_congr s hst
    rw [← run_step x s, ← run_step x t, ← hnext]
    exact ih (h.step s) hcells

end Run

end Confined

theorem confined_true (x : Script α) : x.Confined fun _ => True := by
  induction x with
  | done result => trivial
  | put a value next ih => exact ⟨trivial, ih⟩
  | get a next ih => exact ⟨trivial, ih⟩
  | delete a next ih => exact ⟨trivial, ih⟩
  | scan family start matcher next ih => exact ⟨fun _ _ _ _ => trivial, fun shown _ => ih shown⟩
  | collectIds family start matcher next ih => exact ⟨fun _ _ _ _ => trivial, ih⟩

end Script

theorem RowStore.AnswersAs.of_find?_eq {σ : Type} [RowStore σ] {k : σ} {s t : MemoryStore}
    (hk : AnswersAs k s) (h : ∀ a, s.find? a = t.find? a) : AnswersAs k t := by
  intro α x
  rw [hk]
  exact (x.confined_true.run_congr s fun a _ => h a).1

end MailIndex
