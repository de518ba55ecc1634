import MailIndex.Proofs.Faults
import MailIndex.Proofs.FlagSearch
import MailIndex.Proofs.Isolation

namespace MailIndex.Index

variable {mayFail : StoreCall → Prop} {s s' : MemoryStore} {m : MailboxId} {id : MessageId}
  {report : DeleteReport}

theorem find?_of_ends_delete (hscan : ¬ mayFail .scan)
    (hends : (delete m id).Ends mayFail s report s') :
    ∃ failed : List Bytes, failed.Sublist (cellRows s m id) ∧ report.failed = failed.length ∧
      report.removed + report.failed = (cellRows s m id).length ∧
      ∀ a, s'.find? a = if MessageCell m id a ∧ a.row ∉ failed then none else s.find? a := by
  rcases exists_of_ends_delete hends with
    ⟨hfails, -⟩ | ⟨gone, failed, hgone, hfailed, hperm, rfl, -, rfl⟩
  · exact absurd hfails hscan
  · have hlength : gone.length + failed.length = (cellRows s m id).length := by
      rw [← hperm.length_eq, List.length_append]
    refine ⟨failed, hfailed, rfl, hlength, fun a => ?_⟩
    -- a row is either gone or left, and not both
    have hmem : ∀ row, row ∈ gone ∨ row ∈ failed ↔ row ∈ cellRows s m id := fun row => by
      rw [← List.mem_append, hperm.mem_iff]
    have hdisjoint : ∀ row ∈ gone, row ∉ failed := fun row hgone hleft =>
      (List.nodup_append.1 (hperm.nodup_iff.2 (nodup_cellRows ..))).2.2 row hgone row hleft rfl
    rw [MemoryStore.find?_foldl_erase]
    by_cases ha : MessageCell m id a ∧ a.row ∉ failed
    · rw [if_pos ha]
      cases hfind : s.find? a with
      | none => exact ite_self none
      | some value =>
        have hrow : a.row ∈ cellRows s m id :=
          mem_cellRows_of_messageCell ha.1 (Option.isSome_iff_exists.2 ⟨value, hfind⟩)
        obtain ⟨family, row, qualifier⟩ := a
        obtain ⟨⟨⟨rfl, -⟩, rfl⟩, hleft⟩ := ha
        exact if_pos ⟨row, ((hmem row).2 hrow).resolve_right hleft, rfl⟩
    · rw [if_neg ha, if_neg]
      rintro ⟨row, hrow, rfl⟩
      have hstart : m.bytes <+: row := (mem_cellRows.1 (hgone.subset hrow)).1
      exact ha ⟨⟨⟨rfl, hstart⟩, rfl⟩, hdisjoint row hrow⟩

section Left

variable {failed : List Bytes} (hfailed : failed.Sublist (cellRows s m id))
  (hfind : ∀ a, s'.find? a = if MessageCell m id a ∧ a.row ∉ failed then none else s.find? a)
include hfailed hfind

theorem isSome_find?_iff_mem_failed {row : Bytes} (hstart : m.bytes <+: row) :
    (s'.find? ⟨postingFamily, row, Qualifier.encode id⟩).isSome = true ↔ row ∈ failed := by
  have hcell : MessageCell m id ⟨postingFamily, row, Qualifier.encode id⟩ := ⟨⟨rfl, hstart⟩, rfl⟩
  rw [hfind]
  by_cases hrow : row ∈ failed
  · rw [if_neg fun h => h.2 hrow, iff_true_right hrow]
    exact (mem_cellRows.1 (hfailed.subset hrow)).2
  · rw [if_pos ⟨hcell, hrow⟩, iff_false_right hrow]
    nofun

theorem exists_posting_iff_mem_failed :
    (∃ p, (s'.find? (postingCell m id p)).isSome = true) ↔
      ∃ row ∈ failed, ∃ key, RowKey.decode row = .ok key := by
  constructor
  · rintro ⟨p, hp⟩
    refine ⟨_, (isSome_find?_iff_mem_failed hfailed hfind ?_).1 hp, _, RowKey.decode_encode _⟩
    exact RowKey.mailbox_prefix_encode_iff.2 rfl
  · rintro ⟨row, hrow, ⟨m', field, term⟩, hkey⟩
    have hstart : m.bytes <+: row := (mem_cellRows.1 (hfailed.subset hrow)).1
    obtain rfl := RowKey.decode_eq_ok_iff.1 hkey
    obtain rfl : m' = m := RowKey.mailbox_prefix_encode_iff.1 hstart
    exact ⟨⟨field, term⟩, (isSome_find?_iff_mem_failed hfailed hfind hstart).2 hrow⟩

end Left

/-- After a deletion in which some cells could not be deleted, the message is listed if one of these
is in a row that can be read. Its flags can be changed, and every flag finds it as set or as not
set, if the flags are among them; otherwise no flag finds it. -/
theorem answers_after_failed_deletions (hends : (delete m id).Ends (· = .delete) s report s') :
    ∃ failed : List Bytes, failed.Sublist (cellRows s m id) ∧ report.failed = failed.length ∧
      report.removed + report.failed = (cellRows s m id).length ∧
      (∀ a, s'.find? a = if MessageCell m id a ∧ a.row ∉ failed then none else s.find? a) ∧
      ∀ {σ : Type} [RowStore σ] (k : σ), RowStore.AnswersAs k s' → ∀ mode policy clock,
        (∃ ids, ((list ⟨mode, policy, none⟩ clock m).run k).1 = .ok ⟨ids, true⟩ ∧
          (id ∈ ids.toList ↔ ∃ row ∈ failed, ∃ key, RowKey.decode row = .ok key)) ∧
        (∀ flags, ((updateFlags m id flags).run k).1 = true ↔ RowKey.flagsRow m ∈ failed) ∧
        ∀ x : Flag, ∃ set unset,
          ((search ⟨mode, policy, none⟩ clock m [.flag x true]).run k).1 = .ok ⟨set, true⟩ ∧
          ((search ⟨mode, policy, none⟩ clock m [.flag x false]).run k).1 = .ok ⟨unset, true⟩ ∧
          (id ∈ set.toList ∨ id ∈ unset.toList ↔ RowKey.flagsRow m ∈ failed) ∧
          ¬ (id ∈ set.toList ∧ id ∈ unset.toList) := by
  obtain ⟨failed, hfailed, hreport, hlength, hfind⟩ := find?_of_ends_delete nofun hends
  have hflags : (s'.find? (flagsCell m id)).isSome = true ↔ RowKey.flagsRow m ∈ failed :=
    isSome_find?_iff_mem_failed hfailed hfind (RowKey.mailbox_prefix_encode_iff.2 rfl)
  refine ⟨failed, hfailed, hreport, hlength, hfind, fun k hk mode policy clock => ⟨?_, ?_, ?_⟩⟩
  · obtain ⟨ids, hlist, hids⟩ := exists_list_eq_ok hk m mode policy clock
    exact ⟨ids, hlist, (hids id).trans (exists_posting_iff_mem_failed hfailed hfind)⟩
  · exact fun flags => (run_updateFlags_eq_true_iff hk m id flags).trans hflags
  · intro x
    rw [← hflags]
    exact exists_search_flag_either hk m id x mode policy clock

def deleteFirst (s : MemoryStore) : DeleteReport × FaultyStore :=
  (delete (.ofNat 7) 7).run ⟨s, ⟨none, none, some 1, none⟩⟩

theorem ends_deleteFirst (s : MemoryStore) :
    (delete (.ofNat 7) 7).Ends (· = .delete) s (deleteFirst s).1 (deleteFirst s).2.cells := by
  have hwithin : FaultyStore.Within (· = .delete) ⟨s, ⟨none, none, some 1, none⟩⟩ := by
    intro call hcall
    cases call with
    | delete => rfl
    | _ => exact absurd rfl hcall
  exact (hwithin.ends_run _).1

theorem answers_after_failed_deletions_of_flags :
    let left := (deleteFirst oneMessage).2.cells
    (delete (.ofNat 7) 7).Ends (· = .delete) oneMessage ⟨1, 2⟩ left ∧
      ((updateFlags (.ofNat 7) 7 ∅).run left).1 = true ∧
      ∃ ids set unset,
        ((list ⟨.client, .propagate, none⟩ .still (.ofNat 7)).run left).1 = .ok ⟨ids, true⟩ ∧
        7 ∈ ids.toList ∧
        ((search ⟨.client, .propagate, none⟩ .still (.ofNat 7)
          [.flag (.system .seen) true]).run left).1 = .ok ⟨set, true⟩ ∧
        ((search ⟨.client, .propagate, none⟩ .still (.ofNat 7)
          [.flag (.system .seen) false]).run left).1 = .ok ⟨unset, true⟩ ∧
        (7 ∈ set.toList ∨ 7 ∈ unset.toList) := by
  intro left
  have hreport : (deleteFirst oneMessage).1 = ⟨1, 2⟩ := by decide +kernel
  have hends := hreport ▸ ends_deleteFirst oneMessage
  have hupdate : ((updateFlags (.ofNat 7) 7 ∅).run left).1 = true := by decide +kernel
  obtain ⟨failed, -, -, -, -, hanswers⟩ := answers_after_failed_deletions hends
  obtain ⟨⟨ids, hlist, hids⟩, hflags, hsearch⟩ :=
    hanswers left (RowStore.AnswersAs.refl _) .client .propagate .still
  obtain ⟨set, unset, hset, hunset, hfound, -⟩ := hsearch (.system .seen)
  have hrow : RowKey.flagsRow (.ofNat 7) ∈ failed := (hflags ∅).1 hupdate
  exact ⟨hends, hupdate, ids, set, unset, hlist, hids.2 ⟨_, hrow, _, RowKey.decode_encode _⟩,
    hset, hunset, hfound.2 hrow⟩

def laterField : MemoryStore :=
  ((store (.ofNat 7) 7 ∅ (SortedSet.ofList [⟨.firstSenderMailbox, .ofText "x"⟩])).run ∅).2

/-- The flags go first, and the posting stays: the message is listed, but its flags can no longer
be changed, and no search for a flag finds it. -/
theorem listed_without_flags :
    let left := (deleteFirst laterField).2.cells
    (laterField.find? (flagsCell (.ofNat 7) 7)).isSome = true ∧
      (delete (.ofNat 7) 7).Ends (· = .delete) laterField ⟨1, 1⟩ left ∧
      (∃ ids, ((list ⟨.client, .propagate, none⟩ .still (.ofNat 7)).run left).1 =
        .ok ⟨ids, true⟩ ∧ 7 ∈ ids.toList) ∧
      (∀ flags, ((updateFlags (.ofNat 7) 7 flags).run left).1 = false) ∧
      ∀ (f : SystemFlag) (isSet : Bool), ∃ ids,
        ((search ⟨.client, .propagate, none⟩ .still (.ofNat 7)
          [.flag (.system f) isSet]).run left).1 = .ok ⟨ids, true⟩ ∧ 7 ∉ ids.toList := by
  intro left
  have hstored : (laterField.find? (flagsCell (.ofNat 7) 7)).isSome = true := by decide +kernel
  have hreport : (deleteFirst laterField).1 = ⟨1, 1⟩ := by decide +kernel
  have hflags : left.find? (flagsCell (.ofNat 7) 7) = none := by decide +kernel
  have hposting : (left.find?
      (postingCell (.ofNat 7) 7 ⟨.firstSenderMailbox, .ofText "x"⟩)).isSome = true := by
    decide +kernel
  refine ⟨hstored, hreport ▸ ends_deleteFirst laterField, ?_, fun flags => ?_, fun f isSet => ?_⟩
  · obtain ⟨ids, hlist, hids⟩ := exists_list_eq_ok (RowStore.AnswersAs.refl left) (.ofNat 7)
      .client .propagate .still
    exact ⟨ids, hlist, (hids 7).2 ⟨_, hposting⟩⟩
  · rw [run_updateFlags, hflags]
  · obtain ⟨ids, hsearch, hids⟩ := exists_search_flag_eq_ok (RowStore.AnswersAs.refl left)
      (.ofNat 7) (.system f) isSet .client .propagate .still
    refine ⟨ids, hsearch, fun hid => ?_⟩
    obtain ⟨value, hvalue, -⟩ := (hids 7).1 hid
    rw [hflags] at hvalue
    cases hvalue

end MailIndex.Index
