import MailIndex.Proofs.Faults
import MailIndex.Proofs.IdRange
import MailIndex.Proofs.Isolation
import MailIndex.Proofs.List
import MailIndex.Proofs.Store.Flaky

namespace MailIndex.Index

open MemoryStore (AgreeOn)

/-- Whether nothing has changed but flags of these messages; flags that have changed were there
before. -/
def Reflagged (m : MailboxId) (flags : MessageFlags) (ids : MessageId → Prop)
    (s s' : MemoryStore) : Prop :=
  ∀ a, s'.find? a = s.find? a ∨
    (∃ id, ids id ∧ a = flagsCell m id) ∧ (s.find? a).isSome = true ∧
      s'.find? a = some flags.encodeBytes

namespace Reflagged

variable {m : MailboxId} {flags : MessageFlags} {ids ids' : MessageId → Prop}
  {s s' t : MemoryStore}

theorem refl (m : MailboxId) (flags : MessageFlags) (ids : MessageId → Prop) (s : MemoryStore) :
    Reflagged m flags ids s s := fun _ => .inl rfl

theorem mono (h : Reflagged m flags ids s t) (hsub : ∀ id, ids id → ids' id) :
    Reflagged m flags ids' s t := by
  intro a
  rcases h a with h | ⟨⟨id, hid, ha⟩, hchanged⟩
  · exact .inl h
  · exact .inr ⟨⟨id, hsub id hid, ha⟩, hchanged⟩

theorem isSome_eq (h : Reflagged m flags ids s t) (a : CellAddress) :
    (t.find? a).isSome = (s.find? a).isSome := by
  rcases h a with h | ⟨-, hsome, h⟩
  · rw [h]
  · rw [h, hsome]
    rfl

theorem trans (h : Reflagged m flags ids s s') (h' : Reflagged m flags ids s' t) :
    Reflagged m flags ids s t := by
  intro a
  rcases h' a with h' | ⟨ha, hsome, h'⟩
  · rw [h']
    exact h a
  · rw [h.isSome_eq] at hsome
    exact .inr ⟨ha, hsome, h'⟩

end Reflagged

section Ends

variable {mayFail : StoreCall → Prop} {s s' : MemoryStore} {m : MailboxId} {flags : MessageFlags}

theorem reflagged_of_ends_updateFlags {id : MessageId} {answer : Bool}
    (hends : (updateFlags m id flags).Ends mayFail s answer s') :
    Reflagged m flags (· = id) s s' := by
  rcases eq_insert_or_eq_of_ends_updateFlags hends with ⟨-, hsome, rfl⟩ | ⟨-, rfl⟩
  · intro a
    rw [MemoryStore.find?_insert]
    by_cases ha : a = flagsCell m id
    · rw [if_pos ha, ha]
      exact .inr ⟨⟨id, rfl, rfl⟩, hsome, rfl⟩
    · rw [if_neg ha]
      exact .inl rfl
  · exact .refl m flags _ _

theorem reflagged_of_ends_updateFlagsOf {ids : List MessageId} {answer : Nat}
    (hends : (updateFlagsOf m flags ids).Ends mayFail s answer s') :
    Reflagged m flags (· ∈ ids) s s' := by
  have hsteps := steps_of_ends_updateFlagsOf hends
  clear hends
  induction hsteps with
  | refl => exact .refl m flags _ s
  | tail _ hstep ih =>
    obtain ⟨id, hid, _, hupdate⟩ := hstep
    refine ih.trans ((reflagged_of_ends_updateFlags hupdate).mono ?_)
    rintro _ rfl
    exact hid

end Ends

theorem run_updateFlags_eq_true_iff_of_flaky (k : FlakyStore) (m : MailboxId) (id : MessageId)
    (flags : MessageFlags) :
    ((updateFlags m id flags).run k).1 = true ↔
      (k.cells.find? (flagsCell m id)).isSome = true ∧ k.faults.get 0 = none ∧
        k.faults.put 0 = none := by
  rw [updateFlags, Script.run_bind, Script.getCell, Script.run_get]
  cases hget : k.faults.get 0 with
  | some cause =>
    rw [k.fst_get_of_eq_some _ hget]
    exact iff_of_false Bool.false_ne_true fun h => Option.some_ne_none cause h.2.1
  | none =>
    rw [k.fst_get_of_eq_none _ hget]
    cases hfind : k.cells.find? (flagsCell m id) with
    | none => exact iff_of_false Bool.false_ne_true fun h => Bool.false_ne_true h.1
    | some value =>
      change (RowStore.put (RowStore.get k (flagsCell m id)).2 _ _).1.isOk = true ↔ _
      rw [FlakyStore.isOk_put, Option.isNone_iff_eq_none]
      simp only [Option.isSome_some, true_and]
      rfl

/-- Updates write nothing but the flags of the messages they are made for, and those only if there
are some already. A single update tells whether it wrote them: it did not if there were none or a
call failed. -/
theorem flag_updates_change_flags_only (k : FlakyStore) (m : MailboxId) (flags : MessageFlags) :
    (∀ id,
      let updated := (updateFlags m id flags).run k
      (updated.1 = true ↔ (k.cells.find? (flagsCell m id)).isSome = true ∧
        k.faults.get 0 = none ∧ k.faults.put 0 = none) ∧
        (updated.1 = true → updated.2.cells.find? (flagsCell m id) = some flags.encodeBytes) ∧
        (updated.1 = false → updated.2.cells = k.cells) ∧
        Reflagged m flags (· = id) k.cells updated.2.cells) ∧
      ∀ ranges : List IdRange, Reflagged m flags (fun id => ∃ r ∈ ranges, id ∈ r) k.cells
        ((updateFlagsMany m ranges flags).run k).2.cells := by
  have hwithin : k.Within fun _ => True := fun _ _ => trivial
  refine ⟨fun id => ?_, fun ranges => ?_⟩
  · obtain ⟨hends, -⟩ := FlakyStore.stepsEnd.ends_run hwithin (updateFlags m id flags)
    refine ⟨run_updateFlags_eq_true_iff_of_flaky k m id flags, fun htrue => ?_, fun hfalse => ?_,
      reflagged_of_ends_updateFlags hends⟩
    · rcases eq_insert_or_eq_of_ends_updateFlags hends with ⟨-, -, hcells⟩ | ⟨hfalse, -⟩
      · rw [hcells, MemoryStore.find?_insert_self]
      · exact absurd htrue (Bool.eq_false_iff.1 hfalse)
    · rcases eq_insert_or_eq_of_ends_updateFlags hends with ⟨htrue, -, -⟩ | ⟨-, hcells⟩
      · exact absurd htrue (Bool.eq_false_iff.1 hfalse)
      · exact hcells
  · obtain ⟨hends, -⟩ := FlakyStore.stepsEnd.ends_run hwithin (updateFlagsMany m ranges flags)
    exact (reflagged_of_ends_updateFlagsOf hends).mono fun _ => IdRange.mem_allIds.1

def flagged (s : MemoryStore) (m : MailboxId) : Set MessageId :=
  {id | (s.find? (flagsCell m id)).isSome = true}

section Counts

variable (s : MemoryStore) (m : MailboxId) (flags : MessageFlags)

theorem run_updateFlagsOf_answer (ids : List MessageId) :
    ((updateFlagsOf m flags ids).run s).1 =
      ids.countP fun id => (s.find? (flagsCell m id)).isSome := by
  induction ids generalizing s with
  | nil => rfl
  | cons id ids ih =>
    have hreflagged : Reflagged m flags (· = id) s ((updateFlags m id flags).run s).2 :=
      reflagged_of_ends_updateFlags (Script.ends_run (fun _ => True) _ s)
    rw [updateFlagsOf, Script.run_bind, Script.run_bind, ih, List.countP_cons, Nat.add_comm]
    simp only [hreflagged.isSome_eq]
    rw [run_updateFlags]
    cases s.find? (flagsCell m id) <;> rfl

theorem countP_ids (r : IdRange) :
    (r.ids.countP fun id => (s.find? (flagsCell m id)).isSome) =
      {id ∈ flagged s m | id ∈ r}.ncard := by
  rw [List.countP_eq_length_filter, ← ncard_mem_of_nodup (r.nodup_ids.filter _)]
  congr 1
  ext id
  rw [Set.mem_ofPred_eq, List.mem_filter, IdRange.mem_ids]
  exact and_comm

theorem nodup_flagged_allIds_iff (ranges : List IdRange) :
    ((IdRange.allIds ranges).filter fun id => (s.find? (flagsCell m id)).isSome).Nodup ↔
      ranges.Pairwise fun r r' => ∀ id ∈ flagged s m, id ∈ r → id ∉ r' := by
  rw [IdRange.allIds, List.filter_flatMap, List.nodup_flatMap,
    and_iff_right fun r _ => r.nodup_ids.filter _]
  refine List.Pairwise.iff fun r r' => ?_
  rw [Function.onFun, List.disjoint_left]
  simp only [List.mem_filter, IdRange.mem_ids]
  constructor
  · intro h id hid hr hr'
    exact h ⟨hr, hid⟩ ⟨hr', hid⟩
  · rintro h id ⟨hr, hid⟩ ⟨hr', -⟩
    exact h id hid hr hr'

end Counts

/-- Updates of the flags of many messages are counted range by range: a message is counted once only
if no other range has it, too. -/
theorem updateFlagsMany_counts_messages_iff {σ : Type} [RowStore σ] {k : σ} {s : MemoryStore}
    (hk : RowStore.AnswersAs k s) (m : MailboxId) (ranges : List IdRange) (flags : MessageFlags) :
    let updated := ((updateFlagsMany m ranges flags).run k).1
    updated = (ranges.map fun r => {id ∈ flagged s m | id ∈ r}.ncard).sum ∧
      (updated = {id ∈ flagged s m | ∃ r ∈ ranges, id ∈ r}.ncard ↔
        ranges.Pairwise fun r r' => ∀ id ∈ flagged s m, id ∈ r → id ∉ r') := by
  intro updated
  have hupdated : updated =
      (IdRange.allIds ranges).countP fun id => (s.find? (flagsCell m id)).isSome :=
    (hk _).trans (run_updateFlagsOf_answer s m flags _)
  refine ⟨?_, ?_⟩
  · rw [hupdated, IdRange.allIds, List.countP_flatMap]
    exact congrArg List.sum (List.map_congr_left fun r _ => countP_ids s m r)
  · have hmessages : {id ∈ flagged s m | ∃ r ∈ ranges, id ∈ r} =
        {id | id ∈ (IdRange.allIds ranges).filter fun id => (s.find? (flagsCell m id)).isSome} := by
      ext id
      rw [Set.mem_ofPred_eq, Set.mem_ofPred_eq, List.mem_filter, IdRange.mem_allIds]
      exact and_comm
    rw [hupdated, List.countP_eq_length_filter, hmessages, length_eq_ncard_mem_iff,
      nodup_flagged_allIds_iff]

theorem flagged_oneMessage : flagged oneMessage (.ofNat 7) = {7} := by
  have hconfined : AgreeOn (¬ MessageCell (.ofNat 7) 7 ·) ∅ oneMessage :=
    (confined_store (.ofNat 7) 7 ∅ shortSubjectPostings).agreeOn_run ∅
  ext id
  constructor
  · intro hid
    by_contra hne
    have hcell : ¬ MessageCell (.ofNat 7) 7 (flagsCell (.ofNat 7) id) := fun h =>
      hne ((messageCell_postingCell .flags).unique h).2
    have hnone : oneMessage.find? (flagsCell (.ofNat 7) id) = none := (hconfined _ hcell).symm
    rw [flagged, Set.mem_ofPred_eq, hnone] at hid
    cases hid
  · rintro rfl
    change (oneMessage.find? (flagsCell (.ofNat 7) 7)).isSome = true
    decide +kernel

theorem updateFlagsMany_counts_messages_of_disjoint :
    let ranges : List IdRange := [⟨8, 9⟩, ⟨9, 7⟩, ⟨6, 7⟩]
    RowStore.AnswersAs oneMessage oneMessage ∧
      ranges.Pairwise (fun r r' => ∀ id ∈ flagged oneMessage (.ofNat 7), id ∈ r → id ∉ r') ∧
      ((updateFlagsMany (.ofNat 7) ranges ∅).run oneMessage).1 =
        {id ∈ flagged oneMessage (.ofNat 7) | ∃ r ∈ ranges, id ∈ r}.ncard := by
  intro ranges
  have hdisjoint : ranges.Pairwise fun r r' =>
      ∀ id ∈ flagged oneMessage (.ofNat 7), id ∈ r → id ∉ r' := by
    simp only [flagged_oneMessage, Set.mem_singleton_iff, forall_eq]
    decide
  obtain ⟨-, hcounts⟩ :=
    updateFlagsMany_counts_messages_iff (RowStore.AnswersAs.refl oneMessage) (.ofNat 7) ranges ∅
  exact ⟨RowStore.AnswersAs.refl _, hdisjoint, hcounts.2 hdisjoint⟩

theorem updateFlagsMany_counts_repeated_twice :
    let ranges : List IdRange := [⟨7, 8⟩, ⟨7, 7⟩]
    let updated := ((updateFlagsMany (.ofNat 7) ranges ∅).run oneMessage).1
    let messages := {id ∈ flagged oneMessage (.ofNat 7) | ∃ r ∈ ranges, id ∈ r}
    messages = {7} ∧ updated = 2 ∧ updated ≠ messages.ncard := by
  intro ranges updated messages
  have hmessages : messages = {7} := by
    have hrange : ∃ r ∈ ranges, (7 : MessageId) ∈ r := by decide
    ext id
    rw [Set.mem_ofPred_eq, flagged_oneMessage, and_iff_left_of_imp]
    rintro rfl
    exact hrange
  have hupdated : updated = 2 := by decide +kernel
  refine ⟨hmessages, hupdated, ?_⟩
  rw [hupdated, hmessages, Set.ncard_singleton]
  decide

end MailIndex.Index
