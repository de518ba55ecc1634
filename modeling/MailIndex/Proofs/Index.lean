import MailIndex.Proofs.LiveMessage
import MailIndex.Proofs.RowFilter
import MailIndex.Proofs.RowKey
import MailIndex.Proofs.Store.Script

namespace MailIndex

theorem RowStore.AnswersAs.runAll {σ : Type} [RowStore σ] {k : σ} {s : MemoryStore}
    (h : AnswersAs k s) (ops : List Operation) :
    AnswersAs (Operation.runAll k ops) (Operation.runAll s ops) := by
  induction ops generalizing k s with
  | nil => exact h
  | cons op ops ih =>
    refine ih ?_
    cases op <;> exact h.run _

namespace Index

variable {m m' : MailboxId} {id id' : MessageId} {p p' : Posting}

theorem flagsCell_eq : flagsCell m id = postingCell m id .flags := rfl

theorem postingCell_inj :
    postingCell m id p = postingCell m' id' p' ↔ (m = m' ∧ id = id') ∧ p = p' := by
  constructor
  · intro h
    rw [postingCell, postingCell, CellAddress.mk.injEq] at h
    obtain ⟨-, hrow, hqualifier⟩ := h
    have hkey := RowKey.encode_inj hrow
    rw [RowKey.mk.injEq] at hkey
    obtain ⟨hm, hf, ht⟩ := hkey
    refine ⟨⟨hm, Qualifier.encode_inj hqualifier⟩, ?_⟩
    cases p
    cases p'
    rw [Posting.mk.injEq]
    exact ⟨hf, ht⟩
  · rintro ⟨⟨rfl, rfl⟩, rfl⟩
    rfl

def cellRows (s : MemoryStore) (m : MailboxId) (id : MessageId) : List Bytes :=
  (s.rowsFrom postingFamily m.bytes (.qualifierEquals (Qualifier.encode id))).map (·.key)

section Rows

variable {s : MemoryStore} {row : Bytes}

theorem mem_cellRows :
    row ∈ cellRows s m id ↔ m.bytes <+: row ∧
      (s.find? ⟨postingFamily, row, Qualifier.encode id⟩).isSome = true := by
  rw [cellRows, List.mem_map]
  constructor
  · rintro ⟨r, hr, rfl⟩
    obtain ⟨hne, hstart, hcells⟩ := MemoryStore.mem_rowsFrom hr
    obtain ⟨c, hc⟩ := List.exists_mem_of_ne_nil r.cells hne
    obtain ⟨hfind, hholds⟩ := (hcells c).1 hc
    have hqualifier : c.qualifier = Qualifier.encode id := eq_of_beq hholds
    rw [← hqualifier, hfind]
    exact ⟨hstart, rfl⟩
  · rintro ⟨hstart, hsome⟩
    obtain ⟨value, hfind⟩ := Option.isSome_iff_exists.1 hsome
    have hholds : Filter.holds row ⟨Qualifier.encode id, value⟩
        (.qualifierEquals (Qualifier.encode id)) = true :=
      beq_self_eq_true _
    obtain ⟨r, hr, hkey, -⟩ := MemoryStore.exists_mem_rowsFrom hfind hstart hholds
    exact ⟨r, hr, hkey⟩

variable (s m id) in
theorem nodup_cellRows : (cellRows s m id).Nodup :=
  List.pairwise_map.2 ((MemoryStore.pairwise_rowsFrom ..).imp StrictTotal.ne_of_lt)

end Rows

section Run

variable (s : MemoryStore) (m : MailboxId) (id : MessageId) (flags : MessageFlags)

theorem run_writePostings (ps : List Posting) :
    (writePostings m id ps).run s =
      (.ok (), ps.foldl (fun s p => s.insert (postingCell m id p) presence) s) := by
  induction ps generalizing s with
  | nil => rfl
  | cons p ps ih =>
    rw [writePostings, Script.run_bind, Script.run_putCell]
    exact ih _

theorem run_store (ps : Postings) :
    (store m id flags ps).run s =
      (.ok (), (storable ps).foldl (fun s p => s.insert (postingCell m id p) presence)
        (s.insert (flagsCell m id) flags.encodeBytes)) := by
  rw [store, Script.run_bind, Script.run_putCell]
  exact run_writePostings _ m id _

theorem run_updateFlags :
    (updateFlags m id flags).run s =
      match s.find? (flagsCell m id) with
      | some _ => (true, s.insert (flagsCell m id) flags.encodeBytes)
      | none => (false, s) := by
  rw [updateFlags, Script.run_bind, Script.run_getCell]
  cases s.find? (flagsCell m id) <;> rfl

theorem run_updateFlagsOf (ids : List MessageId) :
    ((updateFlagsOf m flags ids).run s).2 =
      ids.foldl (fun s id => ((updateFlags m id flags).run s).2) s := by
  induction ids generalizing s with
  | nil => rfl
  | cons id ids ih =>
    rw [updateFlagsOf, Script.run_bind, Script.run_bind, List.foldl_cons, ← ih]
    rfl

theorem run_deleteCells (qualifier : Bytes) (rows : List Bytes) :
    ((deleteCells qualifier rows).run s).2 =
      rows.foldl (fun s row => s.erase ⟨postingFamily, row, qualifier⟩) s := by
  induction rows generalizing s with
  | nil => rfl
  | cons row rows ih =>
    simp only [deleteCells, Script.run_bind, Script.run_deleteCell, Script.run_pure,
      List.foldl_cons, ← ih]

theorem find?_store (ps : Postings) (m' : MailboxId) (id' : MessageId) (p : Posting) :
    ((store m id flags ps).run s).2.find? (postingCell m' id' p) =
      if m' = m ∧ id' = id then
        if p ∈ ps.toList ∧ p.field ≠ .flags then some presence
        else if p = .flags then some flags.encodeBytes
        else s.find? (postingCell m id p)
      else s.find? (postingCell m' id' p) := by
  rw [run_store, MemoryStore.find?_foldl_insert, MemoryStore.find?_insert, flagsCell_eq]
  simp only [postingCell_inj]
  by_cases h : m' = m ∧ id' = id
  · obtain ⟨rfl, rfl⟩ := h
    simp [mem_storable]
  · simp [h]

theorem isSome_find?_store_iff {f : Field} (hf : f ≠ .flags) (ps : Postings) (t : Term) :
    (((store m id flags ps).run s).2.find? (postingCell m id ⟨f, t⟩)).isSome = true ↔
      t ∈ ps.termsOf f ∨ (s.find? (postingCell m id ⟨f, t⟩)).isSome = true := by
  have hps : (⟨f, t⟩ : Posting) ∈ ps.toList ∧ f ≠ .flags ↔ t ∈ ps.termsOf f := by
    rw [Postings.mem_termsOf, and_iff_left hf]
  have hp : (⟨f, t⟩ : Posting) ≠ .flags := fun h => hf (congrArg Posting.field h)
  rw [find?_store, if_pos ⟨rfl, rfl⟩, if_neg hp, if_congr hps rfl rfl]
  by_cases h : t ∈ ps.termsOf f <;> simp [h]

theorem find?_updateFlags (m' : MailboxId) (id' : MessageId) (p : Posting) :
    ((updateFlags m id flags).run s).2.find? (postingCell m' id' p) =
      if (m' = m ∧ id' = id) ∧ p = .flags ∧ (s.find? (flagsCell m id)).isSome then
        some flags.encodeBytes
      else s.find? (postingCell m' id' p) := by
  rw [run_updateFlags]
  cases h : s.find? (flagsCell m id) with
  | none => simp
  | some value =>
    change (s.insert _ _).find? _ = _
    rw [MemoryStore.find?_insert, flagsCell_eq]
    simp only [postingCell_inj]
    simp [and_assoc]

theorem run_delete :
    ((delete m id).run s).2 =
      (cellRows s m id).foldl
        (fun s row => s.erase ⟨postingFamily, row, Qualifier.encode id⟩) s := by
  rw [delete, Script.run_bind, Script.run_scanRows]
  exact run_deleteCells s _ _

theorem find?_run_delete (a : CellAddress) :
    ((delete m id).run s).2.find? a =
      if (a.family = postingFamily ∧ m.bytes <+: a.row) ∧ a.qualifier = Qualifier.encode id
      then none
      else s.find? a := by
  rw [run_delete, MemoryStore.find?_foldl_erase]
  obtain ⟨family, row, qualifier⟩ := a
  by_cases h : (family = postingFamily ∧ m.bytes <+: row) ∧ qualifier = Qualifier.encode id
  · rw [if_pos h]
    obtain ⟨⟨rfl, hstart⟩, rfl⟩ := h
    -- the scan shows the row of every cell there is
    cases hfind : s.find? ⟨postingFamily, row, Qualifier.encode id⟩ with
    | none => exact ite_self none
    | some value =>
      exact if_pos ⟨row, mem_cellRows.2 ⟨hstart, Option.isSome_iff_exists.2 ⟨value, hfind⟩⟩, rfl⟩
  · rw [if_neg h, if_neg]
    rintro ⟨row', hrow, ha⟩
    rw [CellAddress.mk.injEq] at ha
    obtain ⟨rfl, rfl, rfl⟩ := ha
    exact h ⟨⟨rfl, (mem_cellRows.1 hrow).1⟩, rfl⟩

theorem find?_delete (m' : MailboxId) (id' : MessageId) (p : Posting) :
    ((delete m id).run s).2.find? (postingCell m' id' p) =
      if m' = m ∧ id' = id then none else s.find? (postingCell m' id' p) := by
  rw [find?_run_delete]
  refine if_congr ?_ rfl rfl
  rw [postingCell, RowKey.mailbox_prefix_encode_iff]
  constructor
  · rintro ⟨⟨-, rfl⟩, hid⟩
    exact ⟨rfl, Qualifier.encode_inj hid⟩
  · rintro ⟨rfl, rfl⟩
    exact ⟨⟨rfl, rfl⟩, rfl⟩

theorem run_deleteEach (ids : List MessageId) :
    ((deleteEach m ids).run s).2 = ids.foldl (fun s id => ((delete m id).run s).2) s := by
  induction ids generalizing s with
  | nil => rfl
  | cons id ids ih =>
    rw [deleteEach, Script.run_bind, Script.run_bind, List.foldl_cons, ← ih]
    rfl

end Run

theorem search_of_compile_eq_ok {options : ScanOptions} {clock : Clock} {m : MailboxId}
    {cs : List Criterion} {f : RowFilter} (hf : Query.compile m cs = .ok f) :
    search options clock m cs = MailboxScan.run options clock m f := by
  rw [search, searchWith, hf]
  rfl

theorem run_updateFlags_eq_true_iff {σ : Type} [RowStore σ] {k : σ} {s : MemoryStore}
    (hk : RowStore.AnswersAs k s) (m : MailboxId) (id : MessageId) (flags : MessageFlags) :
    ((updateFlags m id flags).run k).1 = true ↔ (s.find? (flagsCell m id)).isSome = true := by
  rw [hk, run_updateFlags]
  cases s.find? (flagsCell m id) <;> simp

def Holds (m : MailboxId) (id : MessageId) (p : Posting) (s : MemoryStore) : Prop :=
  s.find? (postingCell m id p) = some presence

namespace Holds

theorem store {ps : Postings} (h : p ∈ ps.toList) (hf : p.field ≠ .flags) (s : MemoryStore)
    (flags : MessageFlags) : Holds m id p ((Index.store m id flags ps).run s).2 := by
  rw [Holds, find?_store, if_pos ⟨rfl, rfl⟩, if_pos ⟨h, hf⟩]

variable {s : MemoryStore} (h : Holds m id p s)
include h

theorem delete (hid : ¬ (m = m' ∧ id = id')) :
    Holds m id p ((Index.delete m' id').run s).2 := by
  rw [Holds, find?_delete, if_neg hid, h]

variable (hp : p ≠ .flags)
include hp

theorem updateFlags (m' : MailboxId) (id' : MessageId) (flags : MessageFlags) :
    Holds m id p ((Index.updateFlags m' id' flags).run s).2 := by
  rw [Holds, find?_updateFlags, if_neg fun hflags => hp hflags.2.1, h]

theorem run {op : Operation} (hop : ¬ op.Deletes m id) : Holds m id p (op.run s) := by
  -- storing again writes the same cell; only flags are ever replaced
  cases op with
  | store m' id' flags ps =>
    rw [Holds, Operation.run, find?_store]
    by_cases hid : m = m' ∧ id = id'
    · obtain ⟨rfl, rfl⟩ := hid
      rw [Holds] at h
      simp [hp, h]
    · rw [if_neg hid, h]
  | updateFlags m' id' flags => exact h.updateFlags hp m' id' flags
  | updateFlagsMany m' ranges flags =>
    rw [Operation.run, updateFlagsMany, run_updateFlagsOf]
    exact List.foldlRecOn (motive := Holds m id p) _ _ h fun s hs id' _ =>
      hs.updateFlags hp m' id' flags
  | delete m' id' => exact h.delete fun hid => hop ⟨hid.1.symm, hid.2.symm⟩
  | deleteMany m' ranges =>
    rw [Operation.run, deleteMany, run_deleteEach]
    refine List.foldlRecOn (motive := Holds m id p) _ _ h fun s hs id' hid' => hs.delete ?_
    rintro ⟨rfl, rfl⟩
    exact hop ⟨rfl, IdRange.mem_allIds.1 hid'⟩

theorem runAll {ops : List Operation} (hops : ∀ op ∈ ops, ¬ op.Deletes m id) :
    Holds m id p (Operation.runAll s ops) :=
  List.foldlRecOn (motive := Holds m id p) ops Operation.run h fun _ hs op hop =>
    hs.run hp (hops op hop)

end Holds

/-- The cells of a store are those of the messages, and no others. -/
structure Represents (s : MemoryStore) (T : Messages) : Prop where
  find?_cell : ∀ m id p, s.find? (postingCell m id p) = (T m id).bind fun msg => msg.value? p
  eq_cell : ∀ a value, s.find? a = some value → ∃ m id p, a = postingCell m id p

theorem represents_empty : Represents ∅ .none where
  find?_cell _ _ _ := rfl
  eq_cell _ _ := nofun

namespace Represents

variable {s : MemoryStore} {T : Messages} (h : Represents s T)
include h

theorem find?_flagsCell (m : MailboxId) (id : MessageId) :
    s.find? (flagsCell m id) = (T m id).map fun msg => msg.flags.encodeBytes := by
  rw [flagsCell_eq, h.find?_cell]
  cases T m id with
  | none => rfl
  | some msg => exact msg.value?_flags

theorem store (m : MailboxId) (id : MessageId) (flags : MessageFlags) (ps : Postings) :
    Represents ((store m id flags ps).run s).2
      (T.change m (· = id) fun old => some (LiveMessage.stored old flags ps)) where
  find?_cell m' id' p := by
    rw [find?_store, Messages.change]
    by_cases hid : m' = m ∧ id' = id
    · rw [if_pos hid, if_pos hid, h.find?_cell, hid.1, hid.2]
      exact (LiveMessage.value?_stored _ flags ps p).symm
    · rw [if_neg hid, if_neg hid, h.find?_cell]
  eq_cell a value ha := by
    rw [run_store, MemoryStore.find?_foldl_insert] at ha
    split at ha
    · rename_i hps
      obtain ⟨p, -, hp⟩ := hps
      exact ⟨m, id, p, hp⟩
    · rcases MemoryStore.eq_or_find?_of_find?_insert ha with hflags | ha
      · exact ⟨m, id, .flags, hflags⟩
      · exact h.eq_cell a value ha

theorem updateFlags (m : MailboxId) (id : MessageId) (flags : MessageFlags) :
    Represents ((updateFlags m id flags).run s).2
      (T.change m (· = id) (LiveMessage.reflagged flags)) where
  find?_cell m' id' p := by
    rw [find?_updateFlags, h.find?_flagsCell, h.find?_cell, Messages.change]
    by_cases hid : m' = m ∧ id' = id
    · obtain ⟨rfl, rfl⟩ := hid
      cases T m' id' with
      | none => simp [LiveMessage.reflagged]
      | some msg =>
        by_cases hp : p = .flags <;> simp [LiveMessage.reflagged, LiveMessage.value?, hp]
    · simp [hid]
  eq_cell a value ha := by
    rw [run_updateFlags] at ha
    split at ha
    · rcases MemoryStore.eq_or_find?_of_find?_insert ha with hflags | ha
      · exact ⟨m, id, .flags, hflags⟩
      · exact h.eq_cell a value ha
    · exact h.eq_cell a value ha

theorem delete (m : MailboxId) (id : MessageId) :
    Represents ((delete m id).run s).2 (T.change m (· = id) fun _ => none) where
  find?_cell m' id' p := by
    rw [find?_delete, Messages.change, h.find?_cell]
    split <;> rfl
  eq_cell a value ha := by
    rw [run_delete, MemoryStore.find?_foldl_erase] at ha
    split at ha
    · cases ha
    · exact h.eq_cell a value ha

theorem foldl {α : Type} {f : MemoryStore → α → MemoryStore} {g : Messages → α → Messages}
    (hstep : ∀ s T a, Represents s T → Represents (f s a) (g T a)) (xs : List α) :
    Represents (xs.foldl f s) (xs.foldl g T) := by
  induction xs generalizing s T with
  | nil => exact h
  | cons a xs ih => exact ih (hstep s T a h)

theorem apply (op : Operation) : Represents (op.run s) (op.apply T) := by
  cases op with
  | store m id flags ps => exact h.store m id flags ps
  | updateFlags m id flags => exact h.updateFlags m id flags
  | updateFlagsMany m ranges flags =>
    rw [Operation.run, updateFlagsMany, run_updateFlagsOf, Operation.apply,
      ← T.foldl_change_allIds m (LiveMessage.reflagged_reflagged flags)]
    exact h.foldl (fun s T id hs => hs.updateFlags m id flags) _
  | delete m id => exact h.delete m id
  | deleteMany m ranges =>
    rw [Operation.run, deleteMany, run_deleteEach, Operation.apply,
      ← T.foldl_change_allIds m (f := fun _ => none) fun _ => rfl]
    exact h.foldl (fun s T id hs => hs.delete m id) _

end Represents

theorem represents_runAll (ops : List Operation) :
    Represents (Operation.runAll ∅ ops) (Operation.replay ops) :=
  represents_empty.foldl (fun _ _ op hs => hs.apply op) ops

end Index

end MailIndex
