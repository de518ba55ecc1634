import MailIndex.Proofs.Isolation
import MailIndex.Proofs.Store.Ends

namespace MailIndex

open MemoryStore (AgreeOn)

def CellAddress.Readable (a : CellAddress) : Prop :=
  (∃ key, RowKey.decode a.row = .ok key) ∧ a.qualifier.length = 8

namespace Index

theorem readable_iff {m : MailboxId} {a : CellAddress} (ha : MailboxCell m a) :
    a.Readable ↔ ∃ id p, a = postingCell m id p := by
  obtain ⟨family, row, qualifier⟩ := a
  obtain ⟨rfl, hstart⟩ := ha
  rw [CellAddress.Readable, ← Qualifier.exists_decode_eq_ok_iff]
  constructor
  · rintro ⟨⟨⟨m', field, term⟩, hkey⟩, id, hid⟩
    obtain rfl := RowKey.decode_eq_ok_iff.1 hkey
    obtain rfl : m' = m := RowKey.mailbox_prefix_encode_iff.1 hstart
    obtain rfl := Qualifier.decode_eq_ok_iff.1 hid
    exact ⟨id, ⟨field, term⟩, rfl⟩
  · rintro ⟨id, p, hcell⟩
    cases hcell
    exact ⟨⟨_, RowKey.decode_encode _⟩, id, Qualifier.decode_encode id⟩

theorem mem_idsOf_iff_readable (s : MemoryStore) (m : MailboxId) {f : RowFilter}
    {matcher : Matcher} (hf : f.prepare = .ok matcher) (id : MessageId) :
    id ∈ (MailboxScan.idsOf (s.rowsFrom postingFamily m.bytes matcher)).toList ↔
      ∃ a value, s.find? a = some value ∧ (MailboxCell m a ∧ a.Readable) ∧
        Qualifier.decode a.qualifier = .ok id ∧ f.Passes a.row ⟨a.qualifier, value⟩ := by
  rw [mem_idsOf_iff s m hf]
  constructor
  · rintro ⟨p, value, hfind, hpasses⟩
    have hcell : MailboxCell m (postingCell m id p) := (messageCell_postingCell p).1
    exact ⟨_, value, hfind, ⟨hcell, (readable_iff hcell).2 ⟨id, p, rfl⟩⟩,
      Qualifier.decode_encode id, hpasses⟩
  · rintro ⟨a, value, hfind, ⟨hcell, hreadable⟩, hid, hpasses⟩
    obtain ⟨id', p, rfl⟩ := (readable_iff hcell).1 hreadable
    obtain rfl := Qualifier.encode_inj (Qualifier.decode_eq_ok_iff.1 hid)
    exact ⟨p, value, hfind, hpasses⟩

end Index

namespace MailboxScan

open Index (MailboxCell)

/-- Both modes, on a store that tells the messages apart itself and on one that does not, find the
messages of the cells that can be read and pass; no other cell makes a difference. -/
theorem finds_readable_cells (s : MemoryStore) (m : MailboxId) {f : RowFilter} (hf : f.Ready) :
    ∃ ids : IdSet,
      (∀ id, id ∈ ids.toList ↔
        ∃ a value, s.find? a = some value ∧ (MailboxCell m a ∧ a.Readable) ∧
          Qualifier.decode a.qualifier = .ok id ∧ f.Passes a.row ⟨a.qualifier, value⟩) ∧
      ∀ t, AgreeOn (fun a => MailboxCell m a ∧ a.Readable) s t → ∀ mode policy clock,
        (run ⟨mode, policy, none⟩ clock m f).run t = (.ok ⟨ids, true⟩, t) ∧
        (run ⟨mode, policy, none⟩ clock m f).run (FaultyStore.mk t .none) =
          (.ok ⟨ids, true⟩, ⟨t, .none⟩) := by
  obtain ⟨matcher, hmatcher⟩ := hf
  refine ⟨idsOf (s.rowsFrom postingFamily m.bytes matcher),
    Index.mem_idsOf_iff_readable s m hmatcher, fun t hst mode policy clock => ?_⟩
  have hsame : idsOf (t.rowsFrom postingFamily m.bytes matcher) =
      idsOf (s.rowsFrom postingFamily m.bytes matcher) := by
    refine SortedSet.ext fun id => ?_
    rw [Index.mem_idsOf_iff_readable t m hmatcher, Index.mem_idsOf_iff_readable s m hmatcher]
    refine exists_congr fun a => exists_congr fun value => and_congr_left fun h => ?_
    rw [hst a h.1]
  rw [FaultyStore.run_mk_none, run_of_prepare_eq_ok policy clock m t mode hmatcher, hsame]
  exact ⟨rfl, rfl⟩

def besideCorrupt : MemoryStore :=
  (Index.oneMessage.insert ⟨postingFamily, (MailboxId.ofNat 7).bytes ++ [0xFF], Qualifier.encode 9⟩
    Index.presence).insert ⟨postingFamily, RowKey.flagsRow (.ofNat 7), [1, 2]⟩ Index.presence

theorem finds_readable_cells_beside_corrupt :
    Filter.Ready (.valueContains Index.presence) ∧
      ∃ ids : IdSet, ids.toList = [7] ∧ ∀ mode,
        (run ⟨mode, .propagate, none⟩ .still (.ofNat 7) (.valueContains Index.presence)).run
          (FaultyStore.mk besideCorrupt .none) = (.ok ⟨ids, true⟩, ⟨besideCorrupt, .none⟩) := by
  have hrow : ¬ CellAddress.Readable
      ⟨postingFamily, (MailboxId.ofNat 7).bytes ++ [0xFF], Qualifier.encode 9⟩ := by
    rintro ⟨⟨key, hkey⟩, -⟩
    cases hkey
  have hqualifier : ¬ CellAddress.Readable
      ⟨postingFamily, RowKey.flagsRow (.ofNat 7), [1, 2]⟩ := by
    rintro ⟨-, hlength⟩
    cases hlength
  have hagree : AgreeOn (fun a => MailboxCell (.ofNat 7) a ∧ a.Readable) Index.oneMessage
      besideCorrupt :=
    (AgreeOn.insert_self (fun h => hrow h.2) _ _).trans
      (.insert_self (fun h => hqualifier h.2) _ _)
  obtain ⟨ids, -, hruns⟩ := finds_readable_cells Index.oneMessage (.ofNat 7)
    (f := .valueContains Index.presence) Filter.ready_valueContains
  refine ⟨Filter.ready_valueContains, ids, ?_, fun mode =>
    (hruns besideCorrupt hagree mode .propagate .still).2⟩
  have halone := congrArg Prod.fst (hruns Index.oneMessage (.refl _ _) .client .propagate .still).1
  rw [run_of_prepare_eq_ok _ _ _ _ _ rfl] at halone
  cases halone
  decide +kernel

end MailboxScan

end MailIndex
