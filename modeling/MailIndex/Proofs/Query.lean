import MailIndex.Proofs.DateBucket
import MailIndex.Proofs.Order
import MailIndex.Proofs.RowFilter
import MailIndex.Proofs.RowKey
import MailIndex.Query

namespace MailIndex

namespace Query

def Finds (m : MailboxId) (criteria : List Criterion) (row : Bytes) (cell : Cell) : Prop :=
  ∃ f, compile m criteria = .ok f ∧ f.Passes row cell

theorem compile_eq_ok_iff {m : MailboxId} {cs : List Criterion} {f : RowFilter} :
    compile m cs = .ok f ↔ ∃ fs, cs.mapM (compileOne m) = .ok fs ∧ .anyOf fs = f := by
  rw [compile]
  cases cs.mapM (compileOne m) with
  | error cause => exact iff_of_false nofun nofun
  | ok fs =>
    constructor
    · intro h
      cases h
      exact ⟨fs, rfl, rfl⟩
    · rintro ⟨fs, ⟨⟩, rfl⟩
      rfl

section Dates

variable (m : MailboxId) (r : Resolution) (op : DateOp)

def dateRows (i : Int) : RowFilter :=
  .rowWithin ((r.range i op).1.map (sentDateRow m)) ((r.range i op).2.map (sentDateRow m))

theorem compileOne_internalDate {t : Millis} (h : t.InYears) :
    compileOne m (.internalDate op t r) = .ok (dateRows m r op (r.bucketIndex t.toInt)) := by
  rw [compileOne, r.dateRange_eq op h]
  rfl

theorem compile_internalDate {t : Millis} (h : t.InYears) :
    compile m [.internalDate op t r] = .ok (dateRows m r op (r.bucketIndex t.toInt)) := by
  rw [compile, List.mapM_cons, compileOne_internalDate m r op h]
  rfl

theorem sentDateRow_lt_iff (s t : Millis) : sentDateRow m s < sentDateRow m t ↔ s < t := by
  rw [sentDateRow, sentDateRow, RowKey.encode, RowKey.encode, Bytes.append_lt_append_iff,
    Term.sentDate_lt_sentDate_iff]

theorem passes_dateRows_iff {t s : Millis} (h : t.InYears) (cell : Cell) :
    (dateRows m r op (r.bucketIndex t.toInt)).Passes (sentDateRow m s) cell ↔
      s.InYears ∧ op.Holds (r.bucketIndex s.toInt) (r.bucketIndex t.toInt) := by
  obtain ⟨hstart, hend⟩ := r.bucket_bounds h
  rw [dateRows, Filter.passes_rowWithin, Bound.admitsAbove_map (sentDateRow_lt_iff m),
    Bound.admitsBelow_map (sentDateRow_lt_iff m), r.range_admits_iff op hstart hend]

theorem fieldStart_prefix_sentDateRow (t : Millis) :
    RowKey.fieldStart m .sentDate <+: sentDateRow m t := List.prefix_append _ _

theorem of_passes_dateRows {i : Int} {k : RowKey} {cell : Cell}
    (h : (dateRows m r op i).Passes k.encode cell) : k.mailbox = m ∧ k.field = .sentDate := by
  obtain ⟨hlower, hupper⟩ := r.range_ne_unbounded i op
  rw [dateRows, Filter.passes_rowWithin, Bool.and_eq_true] at h
  obtain ⟨s, hs⟩ := Bound.exists_not_lt_of_admitsAbove_map hlower h.1
  obtain ⟨t, ht⟩ := Bound.exists_not_lt_of_admitsBelow_map hupper h.2
  exact RowKey.fieldStart_prefix_encode_iff.1 (Bytes.prefix_of_between
    (fieldStart_prefix_sentDateRow m s) (fieldStart_prefix_sentDateRow m t) hs ht)

theorem finds_internalDate_iff {t : Millis} (h : t.InYears) (row : Bytes) (cell : Cell) :
    Finds m [.internalDate op t r] row cell ↔
      (dateRows m r op (r.bucketIndex t.toInt)).Passes row cell := by
  rw [Finds, compile_internalDate m r op h]
  constructor
  · rintro ⟨f, hf, hpasses⟩
    cases hf
    exact hpasses
  · intro hpasses
    exact ⟨_, rfl, hpasses⟩

end Dates

/-- The three ways of asking for a bucket cut the years 0 to 9999 into three. -/
theorem internalDate_partitions (m : MailboxId) (r : Resolution) {t : Millis} (ht : t.InYears) :
    (∀ op, ∃ f matcher, compile m [.internalDate op t r] = .ok f ∧ f.prepare = .ok matcher) ∧
    (∀ (s : Millis) (cell : Cell), s.InYears →
      (∃! op, Finds m [.internalDate op t r] (sentDateRow m s) cell) ∧
      ∃ start start', r.truncate s = .ok start ∧ r.truncate t = .ok start' ∧
        (Finds m [.internalDate .on t r] (sentDateRow m s) cell ↔ start = start') ∧
        (Finds m [.internalDate .before t r] (sentDateRow m s) cell ↔ start < start') ∧
        (Finds m [.internalDate .after t r] (sentDateRow m s) cell ↔ start' < start)) ∧
    (∀ (s : Millis) (cell : Cell) (op : DateOp), ¬ s.InYears →
      ¬ Finds m [.internalDate op t r] (sentDateRow m s) cell) ∧
    ∀ (k : RowKey) (cell : Cell) (op : DateOp), k.mailbox ≠ m ∨ k.field ≠ .sentDate →
      ¬ Finds m [.internalDate op t r] k.encode cell := by
  have finds_iff : ∀ (op : DateOp) (s : Millis) (cell : Cell),
      Finds m [.internalDate op t r] (sentDateRow m s) cell ↔
        s.InYears ∧ op.Holds (r.bucketIndex s.toInt) (r.bucketIndex t.toInt) := by
    intro op s cell
    rw [finds_internalDate_iff m r op ht, passes_dateRows_iff m r op ht]
  refine ⟨fun op => ?_, fun s cell hs => ⟨?_, ?_⟩, fun s cell op hs => ?_, fun k cell op hk => ?_⟩
  · exact ⟨_, _, compile_internalDate m r op ht, rfl⟩
  · simp only [finds_iff, hs, true_and]
    exact DateOp.existsUnique_holds _ _
  · refine ⟨_, _, r.truncate_eq hs, r.truncate_eq ht, ?_⟩
    simp only [finds_iff, hs, true_and, Resolution.bucketMillis_inj hs ht,
      Resolution.bucketMillis_lt_iff hs ht, Resolution.bucketMillis_lt_iff ht hs, DateOp.Holds]
  · rw [finds_iff]
    exact fun h => hs h.1
  · rw [finds_internalDate_iff m r op ht]
    intro h
    obtain ⟨hm, hf⟩ := of_passes_dateRows m r op h
    exact hk.elim (fun h => h hm) fun h => h hf

theorem internalDate_partitions_leap_day :
    Millis.InYears 951782400000 ∧
      ∃! op, Finds (.ofNat 7) [.internalDate op 951782400000 .month]
        (sentDateRow (.ofNat 7) 951868800000) ⟨[], []⟩ :=
  ⟨by decide, ((internalDate_partitions (.ofNat 7) .month (t := 951782400000) (by decide)).2.1
    951868800000 ⟨[], []⟩ (by decide)).1⟩

end Query

end MailIndex
