import Mathlib.Data.List.Nodup
import MailIndex.Criterion

namespace MailIndex.IdRange

instance : Membership MessageId IdRange := ⟨fun r id => r.first ≤ id ∧ id ≤ r.last⟩

instance (r : IdRange) : DecidablePred (· ∈ r) := fun _ => inferInstanceAs (Decidable (_ ∧ _))

theorem map_toNat_ids (r : IdRange) :
    r.ids.map UInt64.toNat = List.range' r.first.toNat (r.last.toNat + 1 - r.first.toNat) := by
  rw [ids, List.map_map]
  refine (List.map_congr_left fun n hn => ?_).trans (List.map_id _)
  have hlast : n ≤ r.last.toNat := by
    have := List.mem_range'_1.1 hn
    omega
  exact UInt64.toNat_ofNat_of_lt' (Nat.lt_of_le_of_lt hlast r.last.toNat_lt)

theorem mem_ids {r : IdRange} {id : MessageId} : id ∈ r.ids ↔ id ∈ r := by
  have hinj : Function.Injective UInt64.toNat := fun _ _ => UInt64.toNat.inj
  change _ ↔ r.first ≤ id ∧ id ≤ r.last
  rw [← List.mem_map_of_injective hinj, map_toNat_ids, List.mem_range'_1, UInt64.le_iff_toNat_le,
    UInt64.le_iff_toNat_le]
  omega

theorem nodup_ids (r : IdRange) : r.ids.Nodup := by
  refine List.Nodup.of_map UInt64.toNat ?_
  rw [map_toNat_ids]
  exact List.nodup_range'

theorem mem_allIds {ranges : List IdRange} {id : MessageId} :
    id ∈ allIds ranges ↔ ∃ r ∈ ranges, id ∈ r := by
  simp only [allIds, List.mem_flatMap, mem_ids]

end MailIndex.IdRange
