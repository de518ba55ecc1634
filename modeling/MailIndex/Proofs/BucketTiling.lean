import MailIndex.Error
import MailIndex.Proofs.DateBucket

namespace MailIndex

namespace Millis

def InWord (n : Int) : Prop := -0x8000000000000000 ≤ n ∧ n < 0x8000000000000000

/-- Whether an answer is a whole number, or a fault of the caller if there is no such number or no
room for it in the word: never the word of another number. -/
def IsExactly (n : Int) (exist : Prop) : Except DateError Millis → Prop
  | .ok t => t.toInt = n ∧ exist
  | .error cause => (Error.date cause).code = .invalidParameter ∧ ¬ (exist ∧ InWord n)

end Millis

namespace Resolution

open Millis

section Exactness

variable (r : Resolution) (t : Millis)

theorem isExactly_checked {n : Int} {exist : Prop} (hexist : exist) :
    IsExactly n exist (r.checked t n) := by
  rw [checked, ofInt?]
  by_cases hn : InWord n
  · have hword : -0x8000000000000000 ≤ n ∧ n < 0x8000000000000000 := hn
    rw [if_pos hword]
    exact ⟨toInt_ofInt hn, hexist⟩
  · have hword : ¬ (-0x8000000000000000 ≤ n ∧ n < 0x8000000000000000) := hn
    rw [if_neg hword]
    exact ⟨rfl, fun h => hn h.2⟩

theorem isExactly_truncate :
    IsExactly (r.bucketStart (r.bucketIndex t.toInt)) (r.Reaches t.toInt) (r.truncate t) := by
  by_cases h : r.Reaches t.toInt
  · rw [truncate_of_reaches h]
    exact r.isExactly_checked t h
  · obtain ⟨hr, hday⟩ := Classical.not_imp.1 h
    rw [truncate, hr, Millis.day, if_neg hday]
    exact ⟨rfl, fun h' => h h'.1⟩

theorem isExactly_bucketEnd :
    IsExactly (r.oneLater t.toInt) (r.Reaches t.toInt ∧ r.Reaches (r.oneLater t.toInt))
      (r.bucketEnd t) := by
  by_cases h : r.Reaches t.toInt
  · by_cases hlater : r.Reaches (r.oneLater t.toInt)
    · rw [bucketEnd_of_reaches h hlater]
      exact r.isExactly_checked t ⟨h, hlater⟩
    · obtain ⟨hr, hday⟩ := Classical.not_imp.1 hlater
      rw [oneLater_div_dayLength hr] at hday
      rw [bucketEnd, hr, Millis.day, if_pos (h hr)]
      change IsExactly _ _ (if _ then _ else _)
      rw [if_neg hday]
      exact ⟨rfl, fun h' => hlater h'.1.2⟩
  · obtain ⟨hr, hday⟩ := Classical.not_imp.1 h
    rw [bucketEnd, hr, Millis.day, if_neg hday]
    exact ⟨rfl, fun h' => h h'.1.1⟩

variable {r t}

theorem toInt_of_truncate_eq_ok {start : Millis} (h : r.truncate t = .ok start) :
    start.toInt = r.bucketStart (r.bucketIndex t.toInt) := by
  have hexact := r.isExactly_truncate t
  rw [h] at hexact
  exact hexact.1

theorem truncate_mono {u start start' : Millis} (htu : t ≤ u) (ht : r.truncate t = .ok start)
    (hu : r.truncate u = .ok start') : start ≤ start' := by
  rw [Int64.le_iff_toInt_le] at htu ⊢
  rw [toInt_of_truncate_eq_ok ht, toInt_of_truncate_eq_ok hu]
  exact r.grid.start_mono (r.grid.index_mono htu)

theorem reaches_oneLater (h : t.InCalendar) : r.Reaches (r.oneLater t.toInt) := by
  intro hr
  have hmonths : r.months ≤ 12 := by cases r <;> decide
  have hvalid : (Date.ofDays (t.toInt / dayLength)).Valid := (Date.ofDays_spec _).1
  obtain ⟨hfrom, hto⟩ := Date.year_addMonths hvalid hmonths
  obtain ⟨hfirst, hlast⟩ := h
  rw [Millis.year] at hfirst hlast
  rw [oneLater_div_dayLength hr]
  exact Date.inRange_of_year (Date.valid_addMonths hvalid r.months) ⟨by omega, by omega⟩

theorem inWord_oneLater (h : t.InCalendar) : InWord (r.oneLater t.toInt) := by
  cases hr : r.fixedLength with
  | none =>
    have hday := Date.inRange_iff.1 (reaches_oneLater h hr)
    rw [dayLength] at hday
    exact ⟨by omega, by omega⟩
  | some unit =>
    have hunit : 0 ≤ unit ∧ unit ≤ dayLength := by
      cases r <;> cases hr <;> decide
    obtain ⟨hfirst, hend⟩ := inCalendar_iff.1 h
    rw [dayLength] at hunit
    simp only [oneLater, hr]
    exact ⟨by omega, by omega⟩

theorem exists_bucketEnd_eq_ok (r : Resolution) (h : t.InCalendar) :
    ∃ later, r.bucketEnd t = .ok later := by
  have hexact := r.isExactly_bucketEnd t
  cases hanswer : r.bucketEnd t with
  | ok later => exact ⟨later, rfl⟩
  | error cause =>
    rw [hanswer] at hexact
    exact absurd ⟨⟨fun _ => h.inRange, reaches_oneLater h⟩, inWord_oneLater h⟩ hexact.2

end Exactness

/-- A bucket from its start to the start of the next: these instants, and no others, are cut down to
its start. -/
structure IsBucket (r : Resolution) (start next : Millis) : Prop where
  bucketEnd_start : r.bucketEnd start = .ok next
  truncate_start : r.truncate start = .ok start
  truncate_next : r.truncate next = .ok next
  truncate_iff : ∀ u, r.truncate u = .ok start ↔ start ≤ u ∧ u < next

theorem isBucket_bucketMillis {r : Resolution} {i : Int}
    (hstart : -8334601228800000 ≤ r.bucketStart i)
    (hend : r.bucketStart (i + 1) ≤ 8210235340800000) :
    r.IsBucket (r.bucketMillis i) (r.bucketMillis (i + 1)) := by
  have hlt := r.bucketStart_lt i
  have hbounds : -8334601228800000 ≤ r.bucketStart i ∧ r.bucketStart i ≤ 8210235340800000 :=
    ⟨hstart, by omega⟩
  have hbounds' : -8334601228800000 ≤ r.bucketStart (i + 1) ∧
      r.bucketStart (i + 1) ≤ 8210235340800000 := ⟨by omega, hend⟩
  refine ⟨r.bucketEnd_eq hstart hend, truncate_bucketMillis hbounds,
    truncate_bucketMillis hbounds', fun u => ?_⟩
  rw [Int64.le_iff_toInt_le, Int64.lt_iff_toInt_lt, toInt_bucketMillis hbounds,
    toInt_bucketMillis hbounds']
  constructor
  · intro hu
    have hstarts := toInt_of_truncate_eq_ok hu
    rw [toInt_bucketMillis hbounds, r.grid.start_inj] at hstarts
    exact r.grid.index_eq_iff.1 hstarts.symm
  · intro hu
    have hcalendar : u.InCalendar := inCalendar_iff.2 ⟨by omega, by omega⟩
    rw [r.truncate_eq_of_inCalendar hcalendar, r.grid.index_eq_iff.2 hu]

theorem truncate_bucketMillis_of_finer {fine coarse : Resolution}
    (h : fine.coarseness ≤ coarse.coarseness) {t : Millis} (ht : t.InCalendar) :
    coarse.truncate (fine.bucketMillis (fine.bucketIndex t.toInt)) =
      .ok (coarse.bucketMillis (coarse.bucketIndex t.toInt)) := by
  have htoInt := fine.toInt_bucketMillis_of_inCalendar ht
  obtain ⟨hstart, hend⟩ := fine.bucket_bounds_of_inCalendar ht
  have hlt := fine.bucketStart_lt (fine.bucketIndex t.toInt)
  have hcalendar : (fine.bucketMillis (fine.bucketIndex t.toInt)).InCalendar := by
    rw [inCalendar_iff, htoInt]
    omega
  rw [coarse.truncate_eq_of_inCalendar hcalendar, htoInt, bucketIndex_bucketStart_bucketIndex h]

/-- In the years -262143 to 262141 the buckets of a resolution lie side by side without gaps, each
made of whole buckets of the finer resolutions. Beyond them no answer is off: what does not fit the
word or the calendar is an error. -/
theorem buckets_tile_calendar (r : Resolution) :
    (∀ t : Millis, t.InCalendar → ∃ start next later,
      r.truncate t = .ok start ∧ r.bucketEnd t = .ok later ∧ r.IsBucket start next ∧
        (start ≤ t ∧ t < next) ∧
        ∀ fine : Resolution, fine.coarseness ≤ r.coarseness →
          ∃ part, fine.truncate t = .ok part ∧ r.truncate part = .ok start) ∧
    (∀ t u start start' : Millis, t ≤ u → r.truncate t = .ok start → r.truncate u = .ok start' →
      start ≤ start') ∧
    ∀ t : Millis,
      IsExactly (r.bucketStart (r.bucketIndex t.toInt)) (r.Reaches t.toInt) (r.truncate t) ∧
      IsExactly (r.oneLater t.toInt) (r.Reaches t.toInt ∧ r.Reaches (r.oneLater t.toInt))
        (r.bucketEnd t) := by
  refine ⟨fun t ht => ?_, fun t u start start' => truncate_mono, fun t =>
    ⟨r.isExactly_truncate t, r.isExactly_bucketEnd t⟩⟩
  obtain ⟨hstart, hend⟩ := r.bucket_bounds_of_inCalendar ht
  have htruncate := r.truncate_eq_of_inCalendar ht
  have hbucket := isBucket_bucketMillis hstart hend
  obtain ⟨later, hlater⟩ := exists_bucketEnd_eq_ok r ht
  exact ⟨_, _, later, htruncate, hlater, hbucket, (hbucket.truncate_iff t).1 htruncate,
    fun fine hfine => ⟨_, fine.truncate_eq_of_inCalendar ht,
      truncate_bucketMillis_of_finer hfine ht⟩⟩

theorem buckets_tile_calendar_leap_day :
    Millis.InCalendar (-62288352000000) ∧
      Resolution.day.coarseness ≤ Resolution.month.coarseness ∧
      (-62290771200000 : Millis) ≤ -62288352000000 ∧
      ∃ start next later part,
        Resolution.month.truncate (-62288352000000) = .ok start ∧
        Resolution.month.bucketEnd (-62288352000000) = .ok later ∧
        Resolution.month.IsBucket start next ∧
        Resolution.day.truncate (-62288352000000) = .ok part ∧
        Resolution.month.truncate part = .ok start ∧
        ∃ first, Resolution.month.truncate (-62290771200000) = .ok first ∧ first ≤ start := by
  have ht : Millis.InCalendar (-62288352000000) := by decide +kernel
  have hfine : Resolution.day.coarseness ≤ Resolution.month.coarseness := by decide
  have hle : (-62290771200000 : Millis) ≤ -62288352000000 := by decide
  have hfirst : Resolution.month.truncate (-62290771200000) = .ok (-62290771200000) := rfl
  obtain ⟨htile, hmono, -⟩ := Resolution.month.buckets_tile_calendar
  obtain ⟨start, next, later, hstart, hlater, hbucket, -, hpart⟩ := htile _ ht
  obtain ⟨part, hpart, hpartStart⟩ := hpart .day hfine
  exact ⟨ht, hfine, hle, start, next, later, part, hstart, hlater, hbucket, hpart, hpartStart, _,
    hfirst, hmono _ _ _ _ hle hfirst hstart⟩

end Resolution

end MailIndex
