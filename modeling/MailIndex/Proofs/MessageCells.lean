import Mathlib.Data.List.Nodup
import MailIndex.Proofs.Faults
import MailIndex.Proofs.Isolation
import MailIndex.Proofs.List

namespace MailIndex

open MemoryStore (AgreeOn)

namespace MemoryStore

def insertAll (s : MemoryStore) (cells : List (CellAddress × Bytes)) : MemoryStore :=
  cells.foldl (fun s c => s.insert c.1 c.2) s

variable {s t : MemoryStore} {cells : List (CellAddress × Bytes)}

theorem agreeOn_insertAll (s : MemoryStore) (cells : List (CellAddress × Bytes)) :
    AgreeOn (· ∉ cells.map (·.1)) s (s.insertAll cells) := by
  induction cells generalizing s with
  | nil => exact .refl _ s
  | cons c cells ih =>
    intro a ha
    rw [List.map_cons, List.mem_cons, not_or] at ha
    rw [insertAll, List.foldl_cons, ← insertAll, ← ih _ a ha.2, find?_insert, if_neg ha.1]

theorem find?_insertAll_of_mem (hcells : (cells.map (·.1)).Nodup) {c : CellAddress × Bytes}
    (hc : c ∈ cells) : (s.insertAll cells).find? c.1 = some c.2 := by
  induction cells generalizing s with
  | nil => cases hc
  | cons d cells ih =>
    rw [List.map_cons, List.nodup_cons] at hcells
    rw [insertAll, List.foldl_cons, ← insertAll]
    rcases List.mem_cons.1 hc with rfl | hc
    · rw [← agreeOn_insertAll _ cells _ hcells.1, find?_insert_self]
    · exact ih hcells.2 hc

theorem find?_insertAll_congr (h : AgreeOn (· ∉ cells.map (·.1)) s t) (a : CellAddress) :
    (s.insertAll cells).find? a = (t.insertAll cells).find? a := by
  induction cells generalizing s t with
  | nil => exact h a List.not_mem_nil
  | cons c cells ih =>
    rw [insertAll, insertAll, List.foldl_cons, List.foldl_cons]
    refine ih fun b hb => ?_
    rw [find?_insert, find?_insert]
    split
    · rfl
    · rename_i hne
      exact h b (List.not_mem_cons_of_ne_of_not_mem hne hb)

end MemoryStore

namespace Index

def messageCells (m : MailboxId) (id : MessageId) (flags : MessageFlags) (ps : Postings) :
    List (CellAddress × Bytes) :=
  (flagsCell m id, flags.encodeBytes) ::
    (ps.toList.filter fun p => p.field ≠ .flags).map fun p => (postingCell m id p, presence)

section Stored

variable (m : MailboxId) (id : MessageId) (flags : MessageFlags) (ps : Postings)

theorem storable_eq_filter : storable ps = ps.toList.filter fun p => p.field ≠ .flags := rfl

theorem pairwise_filter_toList :
    (ps.toList.filter fun p => p.field ≠ .flags).Pairwise (· < ·) :=
  (SortedSet.pairwise_toList ps).filter _

theorem nodup_flags_cons_filter :
    (Posting.flags :: ps.toList.filter fun p => p.field ≠ .flags).Nodup :=
  List.nodup_cons.2
    ⟨flags_not_mem_storable ps, (pairwise_filter_toList ps).imp StrictTotal.ne_of_lt⟩

theorem map_fst_messageCells :
    (messageCells m id flags ps).map (·.1) =
      (Posting.flags :: ps.toList.filter fun p => p.field ≠ .flags).map (postingCell m id) := by
  rw [messageCells, List.map_cons, List.map_cons, List.map_map]
  rfl

theorem nodup_messageCells : ((messageCells m id flags ps).map (·.1)).Nodup := by
  rw [map_fst_messageCells]
  have hinj : Function.Injective (postingCell m id) := fun _ _ h => (postingCell_inj.1 h).2
  exact List.Nodup.map hinj (nodup_flags_cons_filter ps)

theorem run_store_eq_insertAll (s : MemoryStore) :
    (store m id flags ps).run s = (.ok (), s.insertAll (messageCells m id flags ps)) := by
  rw [run_store, messageCells, MemoryStore.insertAll, List.foldl_cons, List.foldl_map,
    storable_eq_filter]

end Stored

section Limited

variable (m : MailboxId) (id : MessageId)

def stoppedBefore : List Posting → Except Error Unit
  | [] => .ok ()
  | p :: _ => .error (.writePosting p.field id (.injected .put))

def storeAnswer (ps : Postings) : Nat → Except Error Unit
  | 0 => .error (.writeFlags id (.injected .put))
  | n + 1 => stoppedBefore id ((ps.toList.filter fun p => p.field ≠ .flags).drop n)

theorem run_writePostings_of_limit (s : MemoryStore) (faults : Faults) (ps : List Posting)
    (n : Nat) :
    (writePostings m id ps).run (FaultyStore.mk s { faults with put := some n }) =
      (stoppedBefore id (ps.drop n),
        ⟨s.insertAll ((ps.take n).map fun p => (postingCell m id p, presence)),
          { faults with put := some (n - ps.length) }⟩) := by
  induction ps generalizing s n with
  | nil =>
    rw [List.take_nil, List.drop_nil]
    rfl
  | cons p ps ih =>
    cases n with
    | zero =>
      rw [List.length_cons, Nat.zero_sub]
      rfl
    | succ n =>
      rw [List.length_cons, Nat.add_sub_add_right]
      exact ih _ n

theorem run_store_of_limit (flags : MessageFlags) (ps : Postings) (s : MemoryStore)
    (faults : Faults) (n : Nat) :
    (store m id flags ps).run (FaultyStore.mk s { faults with put := some n }) =
      (storeAnswer id ps n, ⟨s.insertAll ((messageCells m id flags ps).take n),
        { faults with put := some (n - (messageCells m id flags ps).length) }⟩) := by
  cases n with
  | zero =>
    rw [Nat.zero_sub]
    rfl
  | succ n =>
    rw [messageCells, List.length_cons, List.length_map, Nat.add_sub_add_right, List.take_succ_cons,
      ← List.map_take]
    exact run_writePostings_of_limit m id _ faults _ n

variable (flags : MessageFlags) (ps : Postings) {n : Nat}

theorem storeAnswer_eq_ok (h : (messageCells m id flags ps).length ≤ n) :
    storeAnswer id ps n = .ok () := by
  cases n with
  | zero => cases h
  | succ n =>
    rw [messageCells, List.length_cons, List.length_map] at h
    rw [storeAnswer, List.drop_eq_nil_of_le (Nat.le_of_succ_le_succ h), stoppedBefore]

theorem storeAnswer_eq_error (h : n < (messageCells m id flags ps).length) :
    ∃ cause, storeAnswer id ps n = .error cause ∧ cause.code = .indexingFailed := by
  cases n with
  | zero => exact ⟨_, rfl, rfl⟩
  | succ n =>
    rw [messageCells, List.length_cons, List.length_map] at h
    rw [storeAnswer, List.drop_eq_getElem_cons (Nat.lt_of_succ_lt_succ h)]
    exact ⟨_, rfl, rfl⟩

end Limited

/-- A message of which only some cells could be written has the first of them, flags before
postings, and nothing else has changed. Storing it again comes to the same as if it had been stored
at once, and once more changes nothing. -/
theorem retried_store_converges (s : MemoryStore) (faults : Faults) (m : MailboxId)
    (id : MessageId) (flags : MessageFlags) (ps : Postings) (n : Nat) :
    let x := store m id flags ps
    let cells := messageCells m id flags ps
    let first := x.run (FaultyStore.mk s { faults with put := some n })
    let second := x.run first.2.cells
    let third := x.run second.2
    (ps.toList.filter fun p => p.field ≠ .flags).Pairwise (· < ·) ∧
      (n < cells.length → ∃ cause, first.1 = .error cause ∧ cause.code = .indexingFailed) ∧
      (cells.length ≤ n → first.1 = .ok ()) ∧
      (∀ c ∈ cells.take n, first.2.cells.find? c.1 = some c.2) ∧
      AgreeOn (· ∉ (cells.take n).map (·.1)) s first.2.cells ∧
      (second.1 = .ok () ∧ ∀ a, second.2.find? a = (x.run s).2.find? a) ∧
      third.1 = .ok () ∧ ∀ a, third.2.find? a = second.2.find? a := by
  intro x cells first second third
  have hfirst : first = (storeAnswer id ps n, ⟨s.insertAll (cells.take n), _⟩) :=
    run_store_of_limit m id flags ps s faults n
  have hstore : ∀ t : MemoryStore, x.run t = (.ok (), t.insertAll cells) :=
    run_store_eq_insertAll m id flags ps
  have hsecond : second = (.ok (), (s.insertAll (cells.take n)).insertAll cells) := by
    change x.run first.2.cells = _
    rw [hfirst, hstore]
  have hthird : third = (.ok (), second.2.insertAll cells) := hstore second.2
  have hsublist : ((cells.take n).map (·.1)).Sublist (cells.map (·.1)) :=
    (List.take_sublist n cells).map _
  have hagree : AgreeOn (· ∉ (cells.take n).map (·.1)) s (s.insertAll (cells.take n)) :=
    MemoryStore.agreeOn_insertAll s _
  have hnodup : (cells.map (·.1)).Nodup := nodup_messageCells m id flags ps
  refine ⟨pairwise_filter_toList ps, fun hn => ?_, fun hn => ?_, fun c hc => ?_, ?_,
    ⟨?_, fun a => ?_⟩, ?_, fun a => ?_⟩
  · rw [hfirst]
    exact storeAnswer_eq_error m id flags ps hn
  · rw [hfirst]
    exact storeAnswer_eq_ok m id flags ps hn
  · rw [hfirst]
    exact MemoryStore.find?_insertAll_of_mem (hsublist.nodup hnodup) hc
  · rw [hfirst]
    exact hagree
  · rw [hsecond]
  · rw [hsecond, hstore]
    refine MemoryStore.find?_insertAll_congr (hagree.symm.mono fun a ha h => ?_) a
    exact ha (hsublist.subset h)
  · rw [hthird]
  · -- what has been written is written again
    rw [hthird, hsecond]
    refine MemoryStore.find?_insertAll_congr ?_ a
    exact (MemoryStore.agreeOn_insertAll _ cells).symm

theorem retried_store_converges_after_two_writes :
    let x := store (.ofNat 7) 7 ∅ shortSubjectPostings
    let first := x.run (FaultyStore.mk ∅ { Faults.none with put := some 2 })
    let second := x.run first.2.cells
    let hi : Posting := ⟨.baseSubject, .ofText "hi"⟩
    let date : Posting := ⟨.sentDate, .sentDate 0⟩
    messageCells (.ofNat 7) 7 ∅ shortSubjectPostings =
        [(flagsCell (.ofNat 7) 7, [0x5C]), (postingCell (.ofNat 7) 7 hi, presence),
          (postingCell (.ofNat 7) 7 date, presence)] ∧
      (∃ cause, first.1 = .error cause ∧ cause.code = .indexingFailed) ∧
      first.2.cells.find? (flagsCell (.ofNat 7) 7) = some [0x5C] ∧
      first.2.cells.find? (postingCell (.ofNat 7) 7 hi) = some presence ∧
      first.2.cells.find? (postingCell (.ofNat 7) 7 date) = none ∧
      second.1 = .ok () ∧ second.2.find? (postingCell (.ofNat 7) 7 date) = some presence ∧
      ∀ a, second.2.find? a = (x.run (∅ : MemoryStore)).2.find? a := by
  intro x first second hi date
  have hcells : messageCells (.ofNat 7) 7 ∅ shortSubjectPostings =
      [(flagsCell (.ofNat 7) 7, [0x5C]), (postingCell (.ofNat 7) 7 hi, presence),
        (postingCell (.ofNat 7) 7 date, presence)] := by
    decide +kernel
  have hdate : postingCell (.ofNat 7) 7 date ∉
      [flagsCell (.ofNat 7) 7, postingCell (.ofNat 7) 7 hi] := by
    decide +kernel
  obtain ⟨-, hfails, -, hwritten, hagree, ⟨hok, hsecond⟩, -⟩ := retried_store_converges ∅
    { Faults.none with put := some 2 } (.ofNat 7) 7 ∅ shortSubjectPostings 2
  rw [hcells] at hfails hwritten hagree
  refine ⟨hcells, hfails (by decide), hwritten _ (.head _), hwritten _ (.tail _ (.head _)),
    (hagree _ hdate).symm, hok, ?_, hsecond⟩
  exact (hsecond _).trans (by decide +kernel)

section Deleted

variable {s : MemoryStore} {m : MailboxId} {id : MessageId}

theorem run_delete_answer (s : MemoryStore) (m : MailboxId) (id : MessageId) :
    ((delete m id).run s).1 = ⟨(cellRows s m id).length, 0⟩ := by
  rcases exists_of_ends_delete (Script.ends_run (fun _ => False) (delete m id) s) with
    ⟨hfails, -⟩ | ⟨gone, failed, hgone, -, hperm, hreport, hmay, -⟩
  · exact absurd hfails not_false
  · have hfailed : failed = [] := by
      by_contra hne
      exact hmay hne
    rw [hfailed, List.append_nil] at hperm
    rw [hreport, hfailed, hperm.length_eq, List.length_nil]

theorem ncard_cellsInRows (id : MessageId) {rows : List Bytes} (h : rows.Nodup) :
    {a | ∃ row ∈ rows, a = CellAddress.mk postingFamily row (Qualifier.encode id)}.ncard =
      rows.length := by
  have hinj : Function.Injective fun row =>
      CellAddress.mk postingFamily row (Qualifier.encode id) :=
    fun _ _ heq => congrArg CellAddress.row heq
  rw [← ncard_mem_of_nodup h, ← Set.ncard_image_of_injective _ hinj]
  congr 1
  ext a
  exact exists_congr fun row => and_congr_right fun _ => eq_comm

theorem cellsIn_messageCell (s : MemoryStore) (m : MailboxId) (id : MessageId) :
    s.cellsIn (MessageCell m id) =
      {a | ∃ row ∈ cellRows s m id, a = ⟨postingFamily, row, Qualifier.encode id⟩} := by
  ext a
  constructor
  · rintro ⟨ha, hsome⟩
    refine ⟨a.row, mem_cellRows_of_messageCell ha hsome, ?_⟩
    obtain ⟨family, row, qualifier⟩ := a
    obtain ⟨⟨rfl, -⟩, rfl⟩ := ha
    rfl
  · rintro ⟨row, hrow, rfl⟩
    obtain ⟨hstart, hsome⟩ := mem_cellRows.1 hrow
    exact ⟨⟨⟨rfl, hstart⟩, rfl⟩, hsome⟩

theorem length_cellRows_eq_ncard (s : MemoryStore) (m : MailboxId) (id : MessageId) :
    (cellRows s m id).length = (s.cellsIn (MessageCell m id)).ncard := by
  rw [cellsIn_messageCell, ncard_cellsInRows id (nodup_cellRows ..)]

theorem length_cellRows {l : List CellAddress} (hl : l.Nodup)
    (h : ∀ a, a ∈ l ↔ MessageCell m id a ∧ (s.find? a).isSome = true) :
    (cellRows s m id).length = l.length := by
  have hcells : s.cellsIn (MessageCell m id) = {a | a ∈ l} := Set.ext fun a => (h a).symm
  rw [length_cellRows_eq_ncard, hcells, ncard_mem_of_nodup hl]

variable (hnone : ∀ a, MessageCell m id a → s.find? a = none)
include hnone

theorem mem_messageCells_iff (flags : MessageFlags) (ps : Postings) (a : CellAddress) :
    a ∈ (messageCells m id flags ps).map (·.1) ↔
      MessageCell m id a ∧ ((s.insertAll (messageCells m id flags ps)).find? a).isSome = true := by
  constructor
  · intro ha
    obtain ⟨c, hc, rfl⟩ := List.mem_map.1 ha
    refine ⟨?_, ?_⟩
    · rw [map_fst_messageCells] at ha
      obtain ⟨p, -, hp⟩ := List.mem_map.1 ha
      rw [← hp]
      exact messageCell_postingCell p
    · rw [MemoryStore.find?_insertAll_of_mem (nodup_messageCells m id flags ps) hc]
      rfl
  · rintro ⟨ha, hsome⟩
    by_contra hnot
    rw [← MemoryStore.agreeOn_insertAll s _ a hnot, hnone a ha] at hsome
    cases hsome

/-- A new message that is stored and deleted leaves every cell as it was, and as many rows, if none
was empty; all of its cells are counted. -/
theorem delete_undoes_store (flags : MessageFlags) (ps : Postings) :
    let stored := (store m id flags ps).run s
    let deleted := (delete m id).run stored.2
    stored.1 = .ok () ∧
      deleted.1 = ⟨1 + (ps.toList.filter fun p => p.field ≠ .flags).length, 0⟩ ∧
      (∀ a, deleted.2.find? a = s.find? a) ∧
      (s.NoEmptyRow → deleted.2.rowCount postingFamily = s.rowCount postingFamily) := by
  intro stored deleted
  have hstored : stored = (.ok (), s.insertAll (messageCells m id flags ps)) :=
    run_store_eq_insertAll m id flags ps s
  have hcells : ∀ a, deleted.2.find? a = s.find? a := by
    intro a
    have hdeleted : deleted.2.find? a = if MessageCell m id a then none else stored.2.find? a :=
      find?_run_delete stored.2 m id a
    rw [hdeleted]
    split
    · rename_i ha
      exact (hnone a ha).symm
    · rename_i ha
      exact ((confined_store m id flags ps).agreeOn_run s a ha).symm
  refine ⟨?_, ?_, hcells, fun hs => ?_⟩
  · rw [hstored]
  · change ((delete m id).run stored.2).1 = _
    rw [run_delete_answer, hstored, length_cellRows (nodup_messageCells m id flags ps)
      (mem_messageCells_iff hnone flags ps), map_fst_messageCells, List.length_map,
      List.length_cons, Nat.add_comm]
  · have htable := MemoryStore.table_eq_of_find?_eq ((hs.run _).run _) hs hcells postingFamily
    exact congrArg SortedMap.size htable

end Deleted

theorem delete_undoes_store_in_shared_rows :
    (∀ a, MessageCell (.ofNat 7) 8 a → oneMessage.find? a = none) ∧ oneMessage.NoEmptyRow ∧
      let stored := (store (.ofNat 7) 8 ∅ shortSubjectPostings).run oneMessage
      let deleted := (delete (.ofNat 7) 8).run stored.2
      deleted.1 = ⟨3, 0⟩ ∧ (∀ a, deleted.2.find? a = oneMessage.find? a) ∧
        deleted.2.rowCount postingFamily = oneMessage.rowCount postingFamily := by
  have hconfined : AgreeOn (¬ MessageCell (.ofNat 7) 7 ·) ∅ oneMessage :=
    (confined_store (.ofNat 7) 7 ∅ shortSubjectPostings).agreeOn_run ∅
  have hne : (7 : MessageId) ≠ 8 := by decide
  have hnone : ∀ a, MessageCell (.ofNat 7) 8 a → oneMessage.find? a = none := by
    intro a ha
    rw [← hconfined a fun ha' => hne (ha'.unique ha).2]
    rfl
  have hrows : oneMessage.NoEmptyRow :=
    MemoryStore.noEmptyRow_empty.run (store (.ofNat 7) 7 ∅ shortSubjectPostings)
  obtain ⟨-, hreport, hcells, hcount⟩ := delete_undoes_store hnone ∅ shortSubjectPostings
  refine ⟨hnone, hrows, hreport.trans ?_, hcells, hcount hrows⟩
  decide +kernel

end Index

end MailIndex
