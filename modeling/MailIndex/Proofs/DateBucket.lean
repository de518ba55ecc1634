import MailIndex.DateBucket
import MailIndex.Proofs.Calendar

namespace MailIndex

namespace Millis

def year (t : Millis) : Int := (Date.ofDays (t.toInt / dayLength)).year

def InYears (t : Millis) : Prop := minDate ≤ t ∧ t ≤ maxDate

instance (t : Millis) : Decidable t.InYears := inferInstanceAs (Decidable (_ ∧ _))

theorem inYears_iff {t : Millis} :
    t.InYears ↔ -62167219200000 ≤ t.toInt ∧ t.toInt ≤ 253402300799999 := by
  rw [InYears, Int64.le_iff_toInt_le, Int64.le_iff_toInt_le]
  rfl

/-- The years that the calendar holds with the ends of all their buckets. -/
def InCalendar (t : Millis) : Prop := -262143 ≤ t.year ∧ t.year ≤ 262141

instance (t : Millis) : Decidable t.InCalendar := inferInstanceAs (Decidable (_ ∧ _))

theorem toInt_ofInt {n : Int} (h : -0x8000000000000000 ≤ n ∧ n < 0x8000000000000000) :
    (Int64.ofInt n).toInt = n :=
  Int64.toInt_ofInt_of_le h.1 h.2

theorem grid_days : Grid (fun i => ofDay i) (fun t => t / dayLength) :=
  .multiples (by decide)

end Millis

namespace Resolution

/-- Where a bucket starts, counting from the one at the start of 1970 or of year 0. -/
def bucketStart (r : Resolution) (i : Int) : Int :=
  match r.fixedLength with
  | some unit => unit * i
  | none => Millis.ofDay (Date.ofMonthIndex (r.months * i)).toDays

def bucketIndex (r : Resolution) (t : Int) : Int :=
  match r.fixedLength with
  | some unit => t / unit
  | none => (Date.ofDays (t / Millis.dayLength)).monthIndex / r.months

theorem grid (r : Resolution) : Grid r.bucketStart r.bucketIndex := by
  have months : 0 < (r.months : Int) := by cases r <;> decide
  cases r with
  | year => exact (Millis.grid_days.comp Date.grid_months).comp (.multiples months)
  | month => exact (Millis.grid_days.comp Date.grid_months).comp (.multiples months)
  | day => exact .multiples (by decide)
  | hour => exact .multiples (by decide)
  | minute => exact .multiples (by decide)
  | second => exact .multiples (by decide)

def coarseness : Resolution → Nat
  | .second => 0
  | .minute => 1
  | .hour => 2
  | .day => 3
  | .month => 4
  | .year => 5

section Coarseness

variable {fine coarse : Resolution} (h : fine.coarseness ≤ coarse.coarseness)
include h

theorem fixedLength_dvd_bucketStart {unit : Int} (hfine : fine.fixedLength = some unit) (i : Int) :
    unit ∣ coarse.bucketStart i := by
  have hdvd : unit ∣ coarse.fixedLength.getD Millis.dayLength := by
    cases fine <;> cases hfine <;> cases coarse <;> revert h <;> decide
  rw [bucketStart]
  cases hcoarse : coarse.fixedLength with
  | some length =>
    rw [hcoarse] at hdvd
    exact Int.dvd_trans hdvd (Int.dvd_mul_right length i)
  | none =>
    rw [hcoarse] at hdvd
    exact Int.dvd_trans hdvd (Int.dvd_mul_right Millis.dayLength _)

theorem months_dvd_months (hfine : fine.fixedLength = none) :
    coarse.fixedLength = none ∧ fine.months ∣ coarse.months := by
  cases fine <;> cases hfine <;> cases coarse <;> revert h <;> decide

theorem exists_bucketStart_eq (i : Int) : ∃ j, fine.bucketStart j = coarse.bucketStart i := by
  cases hfine : fine.fixedLength with
  | some unit =>
    obtain ⟨j, hj⟩ := fixedLength_dvd_bucketStart h hfine i
    refine ⟨j, ?_⟩
    rw [hj, bucketStart, hfine]
  | none =>
    obtain ⟨hcoarse, k, hk⟩ := months_dvd_months h hfine
    refine ⟨k * i, ?_⟩
    simp only [bucketStart, hfine, hcoarse, hk, Int.natCast_mul, Int.mul_assoc]

theorem bucketIndex_bucketStart_bucketIndex (t : Int) :
    coarse.bucketIndex (fine.bucketStart (fine.bucketIndex t)) = coarse.bucketIndex t :=
  fine.grid.index_start_index coarse.grid (exists_bucketStart_eq h) t

end Coarseness

theorem exists_bucketStart_eq_year (r : Resolution) (y : Int) :
    ∃ i, r.bucketStart i = Resolution.year.bucketStart y := by
  have h : r.coarseness ≤ Resolution.year.coarseness := by
    cases r <;> decide
  exact exists_bucketStart_eq h y

theorem bucketIndex_year (t : Millis) : Resolution.year.bucketIndex t.toInt = t.year := by
  obtain ⟨hfirst, hlast, -⟩ := (Date.ofDays_spec (t.toInt / Millis.dayLength)).1
  change (Date.ofDays (t.toInt / Millis.dayLength)).monthIndex / 12 = t.year
  rw [Date.monthIndex, Millis.year]
  omega

theorem bucket_bounds (r : Resolution) {t : Millis} (h : t.InYears) :
    -62167219200000 ≤ r.bucketStart (r.bucketIndex t.toInt) ∧
      r.bucketStart (r.bucketIndex t.toInt + 1) ≤ 253402300800000 := by
  have hfirst : Resolution.year.bucketStart 0 = -62167219200000 := by decide
  have hend : Resolution.year.bucketStart 10000 = 253402300800000 := by decide
  obtain ⟨hmin, hmax⟩ := Millis.inYears_iff.1 h
  exact r.grid.bucket_within (hfirst ▸ r.exists_bucketStart_eq_year 0)
    (hend ▸ r.exists_bucketStart_eq_year 10000) ⟨hmin, Int.lt_add_one_of_le hmax⟩

end Resolution

namespace Millis

theorem inCalendar_iff {t : Millis} :
    t.InCalendar ↔ -8334601228800000 ≤ t.toInt ∧ t.toInt < 8210235340800000 := by
  have hfirst : Resolution.year.bucketStart (-262143) = -8334601228800000 := by decide
  have hend : Resolution.year.bucketStart (262141 + 1) = 8210235340800000 := by decide
  rw [InCalendar, ← Resolution.bucketIndex_year, ← hfirst, ← hend,
    Resolution.year.grid.start_le_iff, Resolution.year.grid.lt_start_iff, Int.lt_add_one_iff]

theorem InYears.inCalendar {t : Millis} (h : t.InYears) : t.InCalendar := by
  obtain ⟨hmin, hmax⟩ := inYears_iff.1 h
  exact inCalendar_iff.2 ⟨by omega, by omega⟩

theorem inRange_of_ofDay {n : Int} (h : -8334601228800000 ≤ ofDay n)
    (h' : ofDay n ≤ 8210235340800000) : Date.InRange n := by
  rw [ofDay, dayLength] at h h'
  rw [Date.inRange_iff]
  omega

theorem InCalendar.inRange {t : Millis} (h : t.InCalendar) :
    Date.InRange (t.toInt / dayLength) := by
  obtain ⟨valid, hday⟩ := Date.ofDays_spec (t.toInt / dayLength)
  exact hday ▸ Date.inRange_of_year valid ⟨h.1, h.2.trans (by decide)⟩

end Millis

namespace Resolution

theorem bucket_bounds_of_inCalendar (r : Resolution) {t : Millis} (h : t.InCalendar) :
    -8334601228800000 ≤ r.bucketStart (r.bucketIndex t.toInt) ∧
      r.bucketStart (r.bucketIndex t.toInt + 1) ≤ 8210235340800000 := by
  have hfirst : Resolution.year.bucketStart (-262143) = -8334601228800000 := by decide
  have hend : Resolution.year.bucketStart 262142 = 8210235340800000 := by decide
  exact r.grid.bucket_within (hfirst ▸ r.exists_bucketStart_eq_year (-262143))
    (hend ▸ r.exists_bucketStart_eq_year 262142) (Millis.inCalendar_iff.1 h)

def bucketMillis (r : Resolution) (i : Int) : Millis := Int64.ofInt (r.bucketStart i)

theorem bucketStart_lt (r : Resolution) (i : Int) : r.bucketStart i < r.bucketStart (i + 1) :=
  r.grid.start_lt_start_iff.2 (Int.lt_succ i)

theorem toInt_bucketMillis {r : Resolution} {i : Int}
    (h : -8334601228800000 ≤ r.bucketStart i ∧ r.bucketStart i ≤ 8210235340800000) :
    (r.bucketMillis i).toInt = r.bucketStart i :=
  Millis.toInt_ofInt ⟨by omega, by omega⟩

theorem toInt_bucketMillis_of_inCalendar (r : Resolution) {t : Millis} (h : t.InCalendar) :
    (r.bucketMillis (r.bucketIndex t.toInt)).toInt = r.bucketStart (r.bucketIndex t.toInt) := by
  obtain ⟨hstart, hend⟩ := r.bucket_bounds_of_inCalendar h
  have hlt := r.bucketStart_lt (r.bucketIndex t.toInt)
  exact toInt_bucketMillis ⟨hstart, by omega⟩

theorem toInt_bucketMillis_bucketIndex (r : Resolution) {t : Millis} (h : t.InYears) :
    (r.bucketMillis (r.bucketIndex t.toInt)).toInt = r.bucketStart (r.bucketIndex t.toInt) :=
  r.toInt_bucketMillis_of_inCalendar h.inCalendar

theorem checked_bucketStart {r : Resolution} {i : Int} (t : Millis)
    (h : -8334601228800000 ≤ r.bucketStart i ∧ r.bucketStart i ≤ 8210235340800000) :
    r.checked t (r.bucketStart i) = .ok (r.bucketMillis i) := by
  have : -0x8000000000000000 ≤ r.bucketStart i ∧ r.bucketStart i < 0x8000000000000000 := by
    omega
  rw [checked, Millis.ofInt?, if_pos this]
  rfl

theorem firstDate_eq {r : Resolution} (h : r.fixedLength = none) {d : Date} (hd : d.Valid) :
    r.firstDate d = Date.ofMonthIndex (r.months * (d.monthIndex / r.months)) := by
  cases r with
  | year =>
    have hyear : (12 : Int) * (d.monthIndex / 12) = 12 * d.year := by
      obtain ⟨hfirst, hlast, -⟩ := hd
      rw [Date.monthIndex]
      omega
    change ⟨d.year, 1, 1⟩ = Date.ofMonthIndex (12 * (d.monthIndex / 12))
    rw [hyear, Date.ofMonthIndex_mul]
  | month =>
    have hmonth : (1 : Int) * (d.monthIndex / 1) = d.monthIndex := by omega
    change ⟨d.year, d.month, 1⟩ = Date.ofMonthIndex (1 * (d.monthIndex / 1))
    rw [hmonth, Date.ofMonthIndex_monthIndex hd]
  | day => cases h
  | hour => cases h
  | minute => cases h
  | second => cases h

def Reaches (r : Resolution) (t : Int) : Prop :=
  r.fixedLength = none → Date.InRange (t / Millis.dayLength)

theorem truncate_of_reaches {r : Resolution} {t : Millis} (h : r.Reaches t.toInt) :
    r.truncate t = r.checked t (r.bucketStart (r.bucketIndex t.toInt)) := by
  rw [truncate]
  cases hr : r.fixedLength with
  | some unit =>
    have : t.toInt - t.toInt % unit = r.bucketStart (r.bucketIndex t.toInt) := by
      simp only [bucketStart, bucketIndex, hr]
      rw [Int.emod_def]
      omega
    exact congrArg (r.checked t) this
  | none =>
    have : Millis.ofDay (r.firstDate (Date.ofDays (t.toInt / Millis.dayLength))).toDays =
        r.bucketStart (r.bucketIndex t.toInt) := by
      simp only [bucketStart, bucketIndex, hr, firstDate_eq hr (Date.ofDays_spec _).1]
    rw [Millis.day, if_pos (h hr)]
    exact congrArg (r.checked t) this

theorem truncate_eq_of_inCalendar (r : Resolution) {t : Millis} (h : t.InCalendar) :
    r.truncate t = .ok (r.bucketMillis (r.bucketIndex t.toInt)) := by
  obtain ⟨hstart, hend⟩ := r.bucket_bounds_of_inCalendar h
  have hlt := r.bucketStart_lt (r.bucketIndex t.toInt)
  rw [truncate_of_reaches fun _ => h.inRange, checked_bucketStart t ⟨hstart, by omega⟩]

theorem truncate_eq (r : Resolution) {t : Millis} (h : t.InYears) :
    r.truncate t = .ok (r.bucketMillis (r.bucketIndex t.toInt)) :=
  r.truncate_eq_of_inCalendar h.inCalendar

/-- One unit later: years and months move the date, which keeps to the last day of its month, and
leave the time of day alone. -/
def oneLater (r : Resolution) (t : Int) : Int :=
  match r.fixedLength with
  | some unit => t + unit
  | none =>
    Millis.ofDay ((Date.ofDays (t / Millis.dayLength)).addMonths r.months).toDays +
      t % Millis.dayLength

theorem oneLater_div_dayLength {r : Resolution} (h : r.fixedLength = none) (t : Int) :
    r.oneLater t / Millis.dayLength =
      ((Date.ofDays (t / Millis.dayLength)).addMonths r.months).toDays := by
  simp only [oneLater, h, Millis.ofDay, Millis.dayLength]
  omega

theorem bucketEnd_of_reaches {r : Resolution} {t : Millis} (h : r.Reaches t.toInt)
    (hlater : r.Reaches (r.oneLater t.toInt)) :
    r.bucketEnd t = r.checked t (r.oneLater t.toInt) := by
  rw [bucketEnd]
  cases hr : r.fixedLength with
  | some unit => simp only [oneLater, hr]
  | none =>
    have hinRange := hlater hr
    rw [oneLater_div_dayLength hr] at hinRange
    rw [Millis.day, if_pos (h hr)]
    change (if _ then _ else _) = _
    rw [if_pos hinRange]
    simp only [oneLater, hr]

theorem oneLater_bucketStart (r : Resolution) (i : Int) :
    r.oneLater (r.bucketStart i) = r.bucketStart (i + 1) := by
  cases hr : r.fixedLength with
  | some unit =>
    simp only [oneLater, bucketStart, hr]
    rw [Int.mul_add, Int.mul_one]
  | none =>
    have hday : r.bucketStart i / Millis.dayLength = (Date.ofMonthIndex (r.months * i)).toDays := by
      simp only [bucketStart, hr]
      exact Millis.grid_days.index_start _
    have hmidnight : r.bucketStart i % Millis.dayLength = 0 := by
      simp only [bucketStart, hr, Millis.ofDay, Int.mul_emod_right]
    simp only [oneLater, hr]
    rw [hday, hmidnight, Date.ofDays_toDays_ofMonthIndex, Date.addMonths_ofMonthIndex, Int.add_zero]
    simp only [bucketStart, hr, Int.mul_add, Int.mul_one]

theorem reaches_bucketStart {r : Resolution} {i : Int}
    (h : -8334601228800000 ≤ r.bucketStart i ∧ r.bucketStart i ≤ 8210235340800000) :
    r.Reaches (r.bucketStart i) := by
  intro hr
  apply Millis.inRange_of_ofDay <;> rw [Millis.ofDay, Millis.dayLength] <;> omega

theorem truncate_bucketMillis {r : Resolution} {i : Int}
    (h : -8334601228800000 ≤ r.bucketStart i ∧ r.bucketStart i ≤ 8210235340800000) :
    r.truncate (r.bucketMillis i) = .ok (r.bucketMillis i) := by
  have htoInt := toInt_bucketMillis h
  rw [truncate_of_reaches, htoInt, r.grid.index_start]
  · exact checked_bucketStart _ h
  · rw [htoInt]
    exact reaches_bucketStart h

theorem bucketEnd_eq (r : Resolution) {i : Int} (hstart : -8334601228800000 ≤ r.bucketStart i)
    (hend : r.bucketStart (i + 1) ≤ 8210235340800000) :
    r.bucketEnd (r.bucketMillis i) = .ok (r.bucketMillis (i + 1)) := by
  have hlt := r.bucketStart_lt i
  have htoInt : (r.bucketMillis i).toInt = r.bucketStart i :=
    toInt_bucketMillis ⟨hstart, by omega⟩
  rw [bucketEnd_of_reaches, htoInt, oneLater_bucketStart]
  · exact checked_bucketStart _ ⟨by omega, hend⟩
  · rw [htoInt]
    exact reaches_bucketStart ⟨hstart, by omega⟩
  · rw [htoInt, oneLater_bucketStart]
    exact reaches_bucketStart ⟨by omega, hend⟩

end Resolution

theorem Resolution.bucketMillis_lt_iff {r : Resolution} {s t : Millis} (hs : s.InYears)
    (ht : t.InYears) :
    r.bucketMillis (r.bucketIndex s.toInt) < r.bucketMillis (r.bucketIndex t.toInt) ↔
      r.bucketIndex s.toInt < r.bucketIndex t.toInt := by
  have hs' := r.toInt_bucketMillis_bucketIndex hs
  have ht' := r.toInt_bucketMillis_bucketIndex ht
  rw [Int64.lt_iff_toInt_lt, hs', ht', r.grid.start_lt_start_iff]

theorem Resolution.bucketMillis_inj {r : Resolution} {s t : Millis} (hs : s.InYears)
    (ht : t.InYears) :
    r.bucketMillis (r.bucketIndex s.toInt) = r.bucketMillis (r.bucketIndex t.toInt) ↔
      r.bucketIndex s.toInt = r.bucketIndex t.toInt := by
  have hs' := r.toInt_bucketMillis_bucketIndex hs
  have ht' := r.toInt_bucketMillis_bucketIndex ht
  rw [← Int64.toInt_inj, hs', ht', r.grid.start_inj]

def DateOp.Holds : DateOp → Int → Int → Prop
  | .on, i, j => i = j
  | .before, i, j => i < j
  | .after, i, j => j < i

theorem Resolution.holds_truncate_iff (r : Resolution) (op : DateOp) {s t : Millis}
    (hs : s.InYears) (ht : t.InYears) :
    (∃ start start', r.truncate s = .ok start ∧ r.truncate t = .ok start' ∧
        op.Holds start.toInt start'.toInt) ↔
      op.Holds (r.bucketIndex s.toInt) (r.bucketIndex t.toInt) := by
  have hstarts : op.Holds (r.bucketMillis (r.bucketIndex s.toInt)).toInt
      (r.bucketMillis (r.bucketIndex t.toInt)).toInt ↔
        op.Holds (r.bucketIndex s.toInt) (r.bucketIndex t.toInt) := by
    rw [r.toInt_bucketMillis_bucketIndex hs, r.toInt_bucketMillis_bucketIndex ht]
    cases op with
    | on => exact r.grid.start_inj
    | before => exact r.grid.start_lt_start_iff
    | after => exact r.grid.start_lt_start_iff
  rw [← hstarts, r.truncate_eq hs, r.truncate_eq ht]
  constructor
  · rintro ⟨_, _, ⟨⟩, ⟨⟩, h⟩
    exact h
  · intro h
    exact ⟨_, _, rfl, rfl, h⟩

theorem DateOp.existsUnique_holds (i j : Int) : ∃! op : DateOp, op.Holds i j := by
  rcases Int.lt_trichotomy i j with h | h | h
  · refine ⟨.before, h, fun op hop => ?_⟩
    cases op <;> simp only [DateOp.Holds] at hop <;> first | rfl | omega
  · refine ⟨.on, h, fun op hop => ?_⟩
    cases op <;> simp only [DateOp.Holds] at hop <;> first | rfl | omega
  · refine ⟨.after, h, fun op hop => ?_⟩
    cases op <;> simp only [DateOp.Holds] at hop <;> first | rfl | omega

namespace Resolution

def range (r : Resolution) (i : Int) : DateOp → Bound Millis × Bound Millis
  | .on => (.included (r.bucketMillis i), .excluded (r.bucketMillis (i + 1)))
  | .before => (.included Millis.minDate, .excluded (r.bucketMillis i))
  | .after => (.included (r.bucketMillis (i + 1)), .included Millis.maxDate)

theorem range_ne_unbounded (r : Resolution) (i : Int) (op : DateOp) :
    (r.range i op).1 ≠ .unbounded ∧ (r.range i op).2 ≠ .unbounded := by
  cases op <;> exact ⟨nofun, nofun⟩

theorem dateRange_eq (op : DateOp) (r : Resolution) {t : Millis} (h : t.InYears) :
    dateRange op t r = .ok (r.range (r.bucketIndex t.toInt) op) := by
  have hrange : ¬ (t < Millis.minDate ∨ Millis.maxDate < t) := by
    rw [not_or, Int64.not_lt, Int64.not_lt]
    exact h
  obtain ⟨hstart, hend⟩ := r.bucket_bounds_of_inCalendar h.inCalendar
  rw [dateRange, if_neg hrange, r.truncate_eq h]
  change (r.bucketEnd _).bind _ = _
  rw [r.bucketEnd_eq hstart hend]
  cases op <;> rfl

theorem dateRange_of_not_inYears (r : Resolution) (op : DateOp) {t : Millis} (h : ¬ t.InYears) :
    dateRange op t r = .error (.bucketOutOfRange t r) := by
  have hrange : t < Millis.minDate ∨ Millis.maxDate < t := by
    rw [← Int64.not_le, ← Int64.not_le]
    exact Decidable.not_and_iff_not_or_not.1 h
  rw [dateRange, if_pos hrange]

theorem range_admits_iff (op : DateOp) (r : Resolution) {i : Int}
    (hstart : -62167219200000 ≤ r.bucketStart i)
    (hend : r.bucketStart (i + 1) ≤ 253402300800000) (t : Millis) :
    ((r.range i op).1.admitsAbove t && (r.range i op).2.admitsBelow t) = true ↔
      t.InYears ∧ op.Holds (r.bucketIndex t.toInt) i := by
  have hlt := r.bucketStart_lt i
  have hi : (r.bucketMillis i).toInt = r.bucketStart i := toInt_bucketMillis ⟨by omega, by omega⟩
  have hnext : (r.bucketMillis (i + 1)).toInt = r.bucketStart (i + 1) :=
    toInt_bucketMillis ⟨by omega, by omega⟩
  have hfrom : r.bucketStart i ≤ t.toInt ↔ i ≤ r.bucketIndex t.toInt := r.grid.start_le_iff
  have hto : r.bucketStart (i + 1) ≤ t.toInt ↔ i + 1 ≤ r.bucketIndex t.toInt :=
    r.grid.start_le_iff
  have hmin : Millis.minDate.toInt = -62167219200000 := rfl
  have hmax : Millis.maxDate.toInt = 253402300799999 := rfl
  rw [Millis.inYears_iff]
  cases op <;>
    simp only [range, DateOp.Holds, Bound.admitsAbove, Bound.admitsBelow, Bool.and_eq_true,
      Bool.not_eq_true', decide_eq_true_eq, decide_eq_false_iff_not, Int64.lt_iff_toInt_lt, hi,
      hnext, hmin, hmax] <;> omega

end Resolution

end MailIndex
