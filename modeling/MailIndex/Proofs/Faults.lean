import Mathlib.Logic.Relation
import MailIndex.Proofs.Search
import MailIndex.Proofs.Store.Ends

namespace MailIndex

namespace Operation

def Leads (mayFail : StoreCall → Prop) (s s' : MemoryStore) : Operation → Prop
  | store m id flags ps => ∃ answer, (Index.store m id flags ps).Ends mayFail s answer s'
  | updateFlags m id flags => ∃ answer, (Index.updateFlags m id flags).Ends mayFail s answer s'
  | updateFlagsMany m ranges flags =>
    ∃ answer, (Index.updateFlagsMany m ranges flags).Ends mayFail s answer s'
  | delete m id => ∃ answer, (Index.delete m id).Ends mayFail s answer s'
  | deleteMany m ranges => ∃ answer, (Index.deleteMany m ranges).Ends mayFail s answer s'

variable {mayFail : StoreCall → Prop}

theorem leads_run_of_within {k : FaultyStore} (h : k.Within mayFail) (op : Operation) :
    op.Leads mayFail k.cells (op.run k).cells ∧ (op.run k).Within mayFail := by
  cases op <;> exact ⟨⟨_, (h.ends_run _).1⟩, (h.ends_run _).2⟩

end Operation

namespace Index

variable {mayFail : StoreCall → Prop}

def Reachable (mayFail : StoreCall → Prop) (s : MemoryStore) : Prop :=
  Relation.ReflTransGen (fun s s' => ∃ op : Operation, op.Leads mayFail s s') ∅ s

theorem reachable_runAll {k : FaultyStore} (h : k.Within mayFail) (hk : Reachable mayFail k.cells)
    (ops : List Operation) : Reachable mayFail (Operation.runAll k ops).cells := by
  induction ops generalizing k with
  | nil => exact hk
  | cons op ops ih =>
    obtain ⟨hleads, hwithin⟩ := op.leads_run_of_within h
    exact ih hwithin (hk.tail ⟨op, hleads⟩)

def Marked (s : MemoryStore) : Prop :=
  ∀ a, (s.find? a).isSome = true →
    ∃ m id p, a = postingCell m id p ∧ (s.find? (flagsCell m id)).isSome = true

theorem marked_empty : Marked ∅ := nofun

theorem eq_insert_or_eq_of_ends_updateFlags {s s' : MemoryStore} {m : MailboxId} {id : MessageId}
    {flags : MessageFlags} {answer : Bool}
    (hends : (updateFlags m id flags).Ends mayFail s answer s') :
    (answer = true ∧ (s.find? (flagsCell m id)).isSome = true ∧
        s' = s.insert (flagsCell m id) flags.encodeBytes) ∨
      answer = false ∧ s' = s := by
  rw [updateFlags, Script.ends_bind_iff] at hends
  obtain ⟨found, between, hget, hrest⟩ := hends
  obtain ⟨rfl | ⟨-, cause, rfl⟩, rfl⟩ := Script.ends_getCell_iff.1 hget
  · cases hfind : between.find? (flagsCell m id) with
    | none =>
      rw [hfind] at hrest
      obtain ⟨rfl, rfl⟩ := Script.ends_pure_iff.1 hrest
      exact .inr ⟨rfl, rfl⟩
    | some value =>
      rw [hfind] at hrest
      obtain ⟨_, after, hput, hdone⟩ := Script.ends_bind_iff.1 hrest
      obtain ⟨rfl, rfl⟩ := Script.ends_pure_iff.1 hdone
      rcases Script.ends_putCell_iff.1 hput with ⟨rfl, rfl⟩ | ⟨⟨-, cause, rfl⟩, rfl⟩
      · exact .inl ⟨rfl, rfl, rfl⟩
      · exact .inr ⟨rfl, rfl⟩
  · obtain ⟨rfl, rfl⟩ := Script.ends_pure_iff.1 hrest
    exact .inr ⟨rfl, rfl⟩

theorem steps_of_ends_updateFlagsOf {s s' : MemoryStore} {m : MailboxId} {flags : MessageFlags}
    {ids : List MessageId} {answer : Nat}
    (hends : (updateFlagsOf m flags ids).Ends mayFail s answer s') :
    Relation.ReflTransGen (fun s s' => ∃ id ∈ ids, ∃ answer,
      (updateFlags m id flags).Ends mayFail s answer s') s s' := by
  induction ids generalizing s answer with
  | nil =>
    obtain ⟨-, rfl⟩ := Script.ends_pure_iff.1 hends
    exact .refl
  | cons id ids ih =>
    rw [updateFlagsOf, Script.ends_bind_iff] at hends
    obtain ⟨updated, between, hfirst, hrest⟩ := hends
    obtain ⟨_, after, hothers, hdone⟩ := Script.ends_bind_iff.1 hrest
    obtain ⟨-, rfl⟩ := Script.ends_pure_iff.1 hdone
    refine .head ⟨id, List.mem_cons_self, updated, hfirst⟩ ?_
    refine Relation.ReflTransGen.mono ?_ _ _ (ih hothers)
    rintro t t' ⟨id', hid, hupdate⟩
    exact ⟨id', List.mem_cons_of_mem id hid, hupdate⟩

namespace Marked

variable {s s' : MemoryStore} (h : Marked s) {m : MailboxId} {id : MessageId}
include h

theorem insert {p : Posting} {value : Bytes}
    (hp : p = .flags ∨ (s.find? (flagsCell m id)).isSome = true) :
    Marked (s.insert (postingCell m id p) value) := by
  intro a ha
  rw [MemoryStore.find?_insert] at ha
  split at ha
  · rename_i hcell
    refine ⟨m, id, p, hcell, ?_⟩
    rcases hp with rfl | hflags
    · rw [flagsCell_eq, MemoryStore.find?_insert_self]
      rfl
    · exact MemoryStore.isSome_find?_insert hflags _ _
  · obtain ⟨m', id', p', rfl, hflags⟩ := h a ha
    exact ⟨m', id', p', rfl, MemoryStore.isSome_find?_insert hflags _ _⟩

theorem delete (m : MailboxId) (id : MessageId) : Marked ((Index.delete m id).run s).2 := by
  intro a ha
  have hcell : (s.find? a).isSome = true := by
    rw [run_delete, MemoryStore.find?_foldl_erase] at ha
    split at ha
    · cases ha
    · exact ha
  obtain ⟨m', id', p, rfl, hflags⟩ := h a hcell
  refine ⟨m', id', p, rfl, ?_⟩
  rw [find?_delete] at ha
  rw [flagsCell_eq, find?_delete]
  split
  · rename_i hid
    rw [if_pos hid] at ha
    cases ha
  · exact hflags

theorem writePostings {ps : List Posting} {answer : Except Error Unit}
    (hflags : (s.find? (flagsCell m id)).isSome = true)
    (hends : (Index.writePostings m id ps).Ends mayFail s answer s') : Marked s' := by
  induction ps generalizing s with
  | nil =>
    obtain ⟨-, rfl⟩ := Script.ends_pure_iff.1 hends
    exact h
  | cons p ps ih =>
    rw [Index.writePostings, Script.ends_bind_iff] at hends
    obtain ⟨_, between, hput, hrest⟩ := hends
    rcases Script.ends_putCell_iff.1 hput with ⟨rfl, rfl⟩ | ⟨⟨-, cause, rfl⟩, rfl⟩
    -- the flags were written before any posting, and stay
    · exact ih (h.insert (.inr hflags)) (MemoryStore.isSome_find?_insert hflags _ _) hrest
    · obtain ⟨-, rfl⟩ := Script.ends_pure_iff.1 hrest
      exact h

theorem store {flags : MessageFlags} {ps : Postings} {answer : Except Error Unit}
    (hends : (Index.store m id flags ps).Ends mayFail s answer s') : Marked s' := by
  rw [Index.store, Script.ends_bind_iff] at hends
  obtain ⟨_, between, hput, hrest⟩ := hends
  rcases Script.ends_putCell_iff.1 hput with ⟨rfl, rfl⟩ | ⟨⟨-, cause, rfl⟩, rfl⟩
  · refine (h.insert (p := .flags) (.inl rfl)).writePostings ?_ hrest
    rw [flagsCell_eq, MemoryStore.find?_insert_self]
    rfl
  · obtain ⟨-, rfl⟩ := Script.ends_pure_iff.1 hrest
    exact h

theorem updateFlags {flags : MessageFlags} {answer : Bool}
    (hends : (Index.updateFlags m id flags).Ends mayFail s answer s') : Marked s' := by
  rcases eq_insert_or_eq_of_ends_updateFlags hends with ⟨-, -, rfl⟩ | ⟨-, rfl⟩
  · exact h.insert (p := .flags) (.inl rfl)
  · exact h

theorem updateFlagsOf {flags : MessageFlags} {ids : List MessageId} {answer : Nat}
    (hends : (Index.updateFlagsOf m flags ids).Ends mayFail s answer s') : Marked s' := by
  have hsteps := steps_of_ends_updateFlagsOf hends
  clear hends
  induction hsteps with
  | refl => exact h
  | tail _ hstep ih =>
    obtain ⟨id, -, _, hupdate⟩ := hstep
    exact ih.updateFlags hupdate

end Marked

section Deletions

variable {s s' : MemoryStore} {m : MailboxId} {id : MessageId} {report : DeleteReport}

theorem exists_of_ends_deleteCells {qualifier : Bytes} {rows : List Bytes} (hnodup : rows.Nodup)
    (hrows : ∀ row ∈ rows, (s.find? ⟨postingFamily, row, qualifier⟩).isSome = true)
    (hends : (deleteCells qualifier rows).Ends mayFail s report s') :
    ∃ gone failed : List Bytes, gone.Sublist rows ∧ failed.Sublist rows ∧
      (gone ++ failed).Perm rows ∧ report = ⟨gone.length, failed.length⟩ ∧
      (failed ≠ [] → mayFail .delete) ∧
      s' = gone.foldl (fun s row => s.erase ⟨postingFamily, row, qualifier⟩) s := by
  induction rows generalizing s report with
  | nil =>
    obtain ⟨rfl, rfl⟩ := Script.ends_pure_iff.1 hends
    exact ⟨[], [], .slnil, .slnil, .nil, rfl, absurd rfl, rfl⟩
  | cons row rows ih =>
    obtain ⟨hrow, hnodup⟩ := List.nodup_cons.1 hnodup
    obtain ⟨hsome, hrows⟩ := List.forall_mem_cons.1 hrows
    rw [deleteCells, Script.ends_bind_iff] at hends
    obtain ⟨_, between, hfirst, hrest⟩ := hends
    obtain ⟨_, after, hothers, hdone⟩ := Script.ends_bind_iff.1 hrest
    obtain ⟨rfl, rfl⟩ := Script.ends_pure_iff.1 hdone
    rcases Script.ends_deleteCell_iff.1 hfirst with ⟨rfl, rfl⟩ | ⟨⟨hfails, cause, rfl⟩, rfl⟩
    · -- the rows are told apart, so the cells of the others are still there
      have hleft : ∀ row' ∈ rows, ((s.erase ⟨postingFamily, row, qualifier⟩).find?
          ⟨postingFamily, row', qualifier⟩).isSome = true := by
        intro row' hrow'
        rw [MemoryStore.find?_erase, if_neg]
        · exact hrows row' hrow'
        · rintro ⟨⟩
          exact hrow hrow'
      obtain ⟨gone, failed, hgone, hfailed, hperm, rfl, hmay, rfl⟩ := ih hnodup hleft hothers
      refine ⟨row :: gone, failed, hgone.cons_cons row, hfailed.cons row, hperm.cons row, ?_, hmay,
        rfl⟩
      rw [hsome]
      exact congrArg₂ DeleteReport.mk (Nat.add_comm ..) (Nat.zero_add _)
    · obtain ⟨gone, failed, hgone, hfailed, hperm, rfl, -, rfl⟩ := ih hnodup hrows hothers
      refine ⟨gone, row :: failed, hgone.cons row, hfailed.cons_cons row,
        List.perm_middle.trans (hperm.cons row), ?_, fun _ => hfails, rfl⟩
      exact congrArg₂ DeleteReport.mk (Nat.zero_add _) (Nat.add_comm ..)

theorem exists_of_ends_delete (hends : (delete m id).Ends mayFail s report s') :
    mayFail .scan ∧ s' = s ∨
      ∃ gone failed : List Bytes, gone.Sublist (cellRows s m id) ∧
        failed.Sublist (cellRows s m id) ∧ (gone ++ failed).Perm (cellRows s m id) ∧
        report = ⟨gone.length, failed.length⟩ ∧ (failed ≠ [] → mayFail .delete) ∧
        s' = gone.foldl (fun s row => s.erase ⟨postingFamily, row, Qualifier.encode id⟩) s := by
  rw [delete, Script.ends_bind_iff] at hends
  obtain ⟨_, between, hscan, hrest⟩ := hends
  rcases Script.ends_scanRows_iff.1 hscan with ⟨rfl | ⟨hfails, rows, cause, -, rfl⟩, rfl⟩
  · exact .inr (exists_of_ends_deleteCells (nodup_cellRows ..)
      (fun row hrow => (mem_cellRows.1 hrow).2) hrest)
  · exact .inl ⟨hfails, (Script.ends_pure_iff.1 hrest).2⟩

variable (hdelete : ¬ mayFail .delete)
include hdelete

theorem eq_or_eq_run_of_ends_delete (hends : (delete m id).Ends mayFail s report s') :
    s' = s ∨ s' = ((delete m id).run s).2 := by
  rcases exists_of_ends_delete hends with ⟨-, rfl⟩ | ⟨gone, failed, hgone, -, hperm, -, hmay, rfl⟩
  · exact .inl rfl
  · have hfailed : failed = [] := by
      by_contra hne
      exact hdelete (hmay hne)
    rw [hfailed, List.append_nil] at hperm
    rw [hgone.eq_of_length hperm.length_eq, run_delete]
    exact .inr rfl

theorem Marked.of_ends_delete (h : Marked s)
    (hends : (Index.delete m id).Ends mayFail s report s') : Marked s' := by
  rcases eq_or_eq_run_of_ends_delete hdelete hends with rfl | rfl
  · exact h
  · exact h.delete m id

theorem Marked.of_ends_deleteEach (h : Marked s) {ids : List MessageId}
    (hends : (deleteEach m ids).Ends mayFail s report s') : Marked s' := by
  induction ids generalizing s report with
  | nil =>
    obtain ⟨-, rfl⟩ := Script.ends_pure_iff.1 hends
    exact h
  | cons id ids ih =>
    rw [deleteEach, Script.ends_bind_iff] at hends
    obtain ⟨_, between, hfirst, hrest⟩ := hends
    obtain ⟨_, after, hothers, hdone⟩ := Script.ends_bind_iff.1 hrest
    obtain ⟨-, rfl⟩ := Script.ends_pure_iff.1 hdone
    exact ih (h.of_ends_delete hdelete hfirst) hothers

theorem Marked.leads (h : Marked s) {op : Operation} (hop : op.Leads mayFail s s') : Marked s' := by
  cases op with
  | store m id flags ps =>
    obtain ⟨_, hends⟩ := hop
    exact h.store hends
  | updateFlags m id flags =>
    obtain ⟨_, hends⟩ := hop
    exact h.updateFlags hends
  | updateFlagsMany m ranges flags =>
    obtain ⟨_, hends⟩ := hop
    exact h.updateFlagsOf hends
  | delete m id =>
    obtain ⟨_, hends⟩ := hop
    exact h.of_ends_delete hdelete hends
  | deleteMany m ranges =>
    obtain ⟨_, hends⟩ := hop
    exact h.of_ends_deleteEach hdelete hends

theorem Reachable.marked (h : Reachable mayFail s) : Marked s := by
  induction h with
  | refl => exact marked_empty
  | tail _ hstep ih =>
    obtain ⟨op, hop⟩ := hstep
    exact ih.leads hdelete hop

end Deletions

namespace Marked

variable {s : MemoryStore} (h : Marked s)
include h

theorem isSome_flagsCell {m : MailboxId} {id : MessageId} {a : CellAddress}
    (ha : (s.find? a).isSome = true) (hrow : m.bytes <+: a.row)
    (hqualifier : a.qualifier = Qualifier.encode id) :
    (s.find? (flagsCell m id)).isSome = true := by
  obtain ⟨m', id', p, rfl, hflags⟩ := h a ha
  obtain rfl : m' = m := RowKey.mailbox_prefix_encode_iff.1 hrow
  obtain rfl := Qualifier.encode_inj hqualifier
  exact hflags

variable {σ : Type} [RowStore σ] {k : σ} (hk : RowStore.AnswersAs k s)
include hk

theorem exists_list_eq_ok (m : MailboxId) (mode : ScanMode) (policy : FailurePolicy)
    (clock : Clock) :
    ∃ ids, ((list ⟨mode, policy, none⟩ clock m).run k).1 = .ok ⟨ids, true⟩ ∧
      ∀ id, id ∈ ids.toList ↔ (s.find? (flagsCell m id)).isSome = true := by
  obtain ⟨ids, hlist, hids⟩ := Index.exists_list_eq_ok hk m mode policy clock
  refine ⟨ids, hlist, fun id => (hids id).trans ⟨?_, fun hflags => ⟨.flags, hflags⟩⟩⟩
  rintro ⟨p, hcell⟩
  exact h.isSome_flagsCell hcell (RowKey.mailbox_prefix_encode_iff.2 rfl) rfl

end Marked

/-- Whatever calls fail on the way, deletions apart, a message that has cells has flags; flags can
be changed of exactly the messages that are listed. -/
theorem flags_mark_messages {s : MemoryStore} (h : Reachable (· ≠ .delete) s) :
    (∀ m id a value, s.find? a = some value → m.bytes <+: a.row →
      a.qualifier = Qualifier.encode id → ∃ flags, s.find? (flagsCell m id) = some flags) ∧
    ∀ {σ : Type} [RowStore σ] (k : σ), RowStore.AnswersAs k s →
      ∀ m mode policy clock, ∃ ids,
        ((list ⟨mode, policy, none⟩ clock m).run k).1 = .ok ⟨ids, true⟩ ∧
        ∀ id flags, ((updateFlags m id flags).run k).1 = true ↔ id ∈ ids.toList := by
  have hmarked : Marked s := h.marked (fun hne => hne rfl)
  refine ⟨fun m id a value ha hrow hqualifier => ?_, fun k hk m mode policy clock => ?_⟩
  · have hcell : (s.find? a).isSome = true := by
      rw [ha]
      rfl
    exact Option.isSome_iff_exists.1 (hmarked.isSome_flagsCell hcell hrow hqualifier)
  · obtain ⟨ids, hlist, hids⟩ := hmarked.exists_list_eq_ok hk m mode policy clock
    refine ⟨ids, hlist, fun id flags => ?_⟩
    rw [hids, run_updateFlags_eq_true_iff hk]

def interrupted : FaultyStore :=
  Operation.runAll ⟨∅, ⟨some 2, none, none, some 0⟩⟩
    [.store (.ofNat 7) 7 ∅ shortSubjectPostings, .delete (.ofNat 7) 7,
      .store (.ofNat 7) 8 ∅ shortSubjectPostings]

theorem reachable_interrupted : Reachable (· ≠ .delete) interrupted.cells := by
  have hempty : Reachable (· ≠ .delete) (∅ : MemoryStore) := .refl
  refine reachable_runAll (fun call hcall => ?_) hempty _
  rintro rfl
  exact hcall rfl

theorem flags_mark_messages_interrupted :
    Reachable (· ≠ .delete) interrupted.cells ∧
      ∃ ids, ((list ⟨.client, .propagate, none⟩ .still (.ofNat 7)).run interrupted.cells).1 =
        .ok ⟨ids, true⟩ ∧ 7 ∈ ids.toList ∧ 8 ∉ ids.toList := by
  have hseven : ((updateFlags (.ofNat 7) 7 ∅).run interrupted.cells).1 = true := by
    decide +kernel
  have height : ¬ ((updateFlags (.ofNat 7) 8 ∅).run interrupted.cells).1 = true := by
    decide +kernel
  obtain ⟨ids, hlist, hids⟩ := (flags_mark_messages reachable_interrupted).2 interrupted.cells
    (RowStore.AnswersAs.refl _) (.ofNat 7) .client .propagate .still
  exact ⟨reachable_interrupted, ids, hlist, (hids 7 ∅).1 hseven, mt (hids 8 ∅).2 height⟩

end Index

end MailIndex
