import Mathlib.Algebra.GroupWithZero.Nat
import MailIndex.Calendar
import MailIndex.Proofs.Grid

namespace MailIndex

namespace Calendar

theorem daysBeforeYear_succ (y : Int) :
    daysBeforeYear (y + 1) = daysBeforeYear y + yearLength y := by
  simp only [daysBeforeYear, yearLength, isLeap, Bool.and_eq_true, Bool.or_eq_true, beq_iff_eq,
    bne_iff_ne]
  split <;> omega

theorem sum_monthLengths (y : Int) : (monthLengths y).sum = yearLength y := by
  rw [monthLengths, yearLength]
  cases isLeap y <;> rfl

theorem daysBeforeYear_parts {q c f y : Int} (hc : 0 ≤ c ∧ c ≤ 3) (hf : 0 ≤ f ∧ f ≤ 24)
    (hy : 0 ≤ y ∧ y ≤ 3) :
    daysBeforeYear (400 * q + 100 * c + 4 * f + y + 1) =
      146097 * q + 36524 * c + 1461 * f + 365 * y := by
  rw [daysBeforeYear]
  omega

theorem yearLength_parts {q c f y : Int} (hc : 0 ≤ c ∧ c ≤ 3) (hf : 0 ≤ f ∧ f ≤ 24)
    (hy : 0 ≤ y ∧ y ≤ 3) :
    yearLength (400 * q + 100 * c + 4 * f + y + 1) =
      if y = 3 ∧ (f < 24 ∨ c = 3) then 366 else 365 := by
  rw [yearLength]
  congr 1
  simp only [isLeap, Bool.and_eq_true, Bool.or_eq_true, beq_iff_eq, bne_iff_ne, eq_iff_iff]
  omega

theorem yearOf_spec (d : Int) :
    daysBeforeYear (yearOf d) ≤ d ∧ d < daysBeforeYear (yearOf d) + yearLength (yearOf d) := by
  rw [yearOf]
  have hcycle : 0 ≤ d % 146097 ∧ d % 146097 < 146097 := by omega
  have hc : 0 ≤ min (d % 146097 / 36524) 3 ∧ min (d % 146097 / 36524) 3 ≤ 3 := by omega
  generalize hcentury : min (d % 146097 / 36524) 3 = c at hc
  have hrest : 0 ≤ d % 146097 - 36524 * c ∧ d % 146097 - 36524 * c ≤ 36524 ∧
    (c < 3 → d % 146097 - 36524 * c < 36524) := by omega
  generalize hcycle' : d % 146097 - 36524 * c = rest at hrest
  have hf : 0 ≤ rest / 1461 ∧ rest / 1461 ≤ 24 := by omega
  have hy : 0 ≤ min (rest % 1461 / 365) 3 ∧ min (rest % 1461 / 365) 3 ≤ 3 := by omega
  rw [daysBeforeYear_parts hc hf hy, yearLength_parts hc hf hy]
  split <;> omega

theorem daysBeforeMonth_eq (y : Int) (m : Nat) :
    daysBeforeMonth y m = ((monthLengths y).take (m - 1)).sum := rfl

theorem daysBeforeMonth_succ (y : Int) (m : Nat) (h : 1 ≤ m) :
    daysBeforeMonth y (m + 1) = daysBeforeMonth y m + daysInMonth y m := by
  obtain ⟨m, rfl⟩ := Nat.exists_eq_add_of_le' h
  rw [daysBeforeMonth_eq, daysBeforeMonth_eq, daysInMonth, Nat.add_sub_cancel, Nat.add_sub_cancel,
    List.take_add_one, List.sum_append, List.getD_eq_getElem?_getD]
  cases (monthLengths y)[m]? <;> simp

theorem daysBeforeMonth_thirteen (y : Int) : daysBeforeMonth y 13 = yearLength y := by
  rw [← sum_monthLengths]
  rfl

theorem daysInMonth_pos (y : Int) {m : Nat} (h : 1 ≤ m ∧ m ≤ 12) : 0 < daysInMonth y m := by
  have : ∀ length ∈ monthLengths y, 0 < length := by
    rw [monthLengths]
    cases isLeap y <;> decide
  have hm : m - 1 < (monthLengths y).length := by
    change m - 1 < 12
    omega
  rw [daysInMonth, List.getD_eq_getElem?_getD, List.getElem?_eq_getElem hm]
  exact this _ (List.getElem_mem hm)

theorem daysInMonth_le (year : Int) (month : Nat) : daysInMonth year month ≤ 31 := by
  have hlengths : ∀ length ∈ monthLengths year, length ≤ 31 := by
    rw [monthLengths]
    cases isLeap year <;> decide
  rw [daysInMonth, List.getD_eq_getElem?_getD]
  cases hlength : (monthLengths year)[month - 1]? with
  | none => exact Nat.zero_le 31
  | some length => exact hlengths length (List.mem_of_getElem? hlength)

theorem monthAndDay_spec (first n : Nat) {lengths : List Nat} (h : n < lengths.sum) :
    ∃ skipped, skipped < lengths.length ∧
      (monthAndDay first n lengths).1 = first + skipped ∧
      (lengths.take skipped).sum + (monthAndDay first n lengths).2 = n + 1 ∧
      1 ≤ (monthAndDay first n lengths).2 ∧
      (monthAndDay first n lengths).2 ≤ lengths.getD skipped 0 := by
  induction lengths generalizing first n with
  | nil => simp at h
  | cons length later ih =>
    rw [monthAndDay]
    by_cases hn : n < length
    · rw [if_pos hn]
      exact ⟨0, Nat.succ_pos _, rfl, Nat.zero_add _, Nat.succ_pos n, hn⟩
    · have : n - length < later.sum := by
        rw [List.sum_cons] at h
        omega
      obtain ⟨skipped, hskipped, hmonth, hsum, hpos, hle⟩ := ih (first + 1) (n - length) this
      refine ⟨skipped + 1, ?_⟩
      simp [hn]
      simp at hle
      omega

end Calendar

namespace Date

open Calendar

def monthIndex (d : Date) : Int := 12 * d.year + (d.month - 1 : Nat)

def ofMonthIndex (i : Int) : Date := ⟨i / 12, (i % 12).toNat + 1, 1⟩

theorem ofDays_spec (n : Int) : (ofDays n).Valid ∧ (ofDays n).toDays = n := by
  obtain ⟨hle, hlt⟩ := yearOf_spec (n + epochDay)
  have inYear : (n + epochDay - daysBeforeYear (yearOf (n + epochDay))).toNat <
      (monthLengths (yearOf (n + epochDay))).sum := by
    rw [sum_monthLengths]
    omega
  obtain ⟨skipped, hskipped, hmonth, hsum, hpos, hday⟩ := monthAndDay_spec 1 _ inYear
  have : skipped < 12 := hskipped
  rw [ofDays, Valid, toDays, daysBeforeMonth_eq, daysInMonth]
  simp only [hmonth, Nat.add_sub_cancel_left]
  omega

theorem ofMonthIndex_mul (y : Int) : ofMonthIndex (12 * y) = ⟨y, 1, 1⟩ := by
  have hyear : 12 * y / 12 = y := by omega
  have hmonth : (12 * y % 12).toNat + 1 = 1 := by omega
  rw [ofMonthIndex, hyear, hmonth]

theorem ofMonthIndex_monthIndex {d : Date} (h : d.Valid) :
    ofMonthIndex d.monthIndex = ⟨d.year, d.month, 1⟩ := by
  obtain ⟨hfirst, hlast, -⟩ := h
  rw [ofMonthIndex, monthIndex]
  congr 1 <;> omega

theorem valid_ofMonthIndex (i : Int) : (ofMonthIndex i).Valid := by
  have hmonth : 1 ≤ (ofMonthIndex i).month ∧ (ofMonthIndex i).month ≤ 12 := by
    simp only [ofMonthIndex]
    omega
  exact ⟨hmonth.1, hmonth.2, Nat.le_refl 1, daysInMonth_pos _ hmonth⟩

theorem toDays_eq_add {d : Date} (h : d.Valid) :
    d.toDays = (ofMonthIndex d.monthIndex).toDays + (d.day - 1) := by
  simp only [ofMonthIndex_monthIndex h, toDays]
  omega

theorem toDays_ofMonthIndex_succ (i : Int) :
    (ofMonthIndex (i + 1)).toDays =
      (ofMonthIndex i).toDays + daysInMonth (ofMonthIndex i).year (ofMonthIndex i).month := by
  obtain ⟨y, m, hm, rfl⟩ : ∃ (y : Int) (m : Nat), m < 12 ∧ i = 12 * y + m :=
    ⟨i / 12, (i % 12).toNat, by omega, by omega⟩
  have hy : (12 * y + m) / 12 = y := by omega
  have hm' : ((12 * y + m) % 12).toNat = m := by omega
  have hsum := daysBeforeMonth_succ y (m + 1) (by omega)
  rw [ofMonthIndex, ofMonthIndex, toDays, toDays]
  simp only [hy, hm']
  by_cases hlast : m = 11
  · subst hlast
    have hnext : (12 * y + (11 : Nat) + 1) / 12 = y + 1 := by omega
    have hfirst : ((12 * y + (11 : Nat) + 1) % 12).toNat = 0 := by omega
    rw [daysBeforeMonth_thirteen] at hsum
    simp only [hnext, hfirst, daysBeforeYear_succ]
    have : daysBeforeMonth (y + 1) (0 + 1) = 0 := rfl
    omega
  · have hnext : (12 * y + m + 1) / 12 = y := by omega
    have hlater : ((12 * y + m + 1) % 12).toNat = m + 1 := by omega
    simp only [hnext, hlater]
    omega

theorem toDays_ofMonthIndex_lt_succ (i : Int) :
    (ofMonthIndex i).toDays < (ofMonthIndex (i + 1)).toDays := by
  have hpos : 0 < daysInMonth (ofMonthIndex i).year (ofMonthIndex i).month :=
    (valid_ofMonthIndex i).2.2.2
  rw [toDays_ofMonthIndex_succ]
  omega

theorem toDays_bounds {d : Date} (h : d.Valid) :
    (ofMonthIndex d.monthIndex).toDays ≤ d.toDays ∧
      d.toDays < (ofMonthIndex (d.monthIndex + 1)).toDays := by
  have hfirst : 1 ≤ d.day := h.2.2.1
  have hlast : d.day ≤ daysInMonth d.year d.month := h.2.2.2
  have hday := toDays_eq_add h
  rw [toDays_ofMonthIndex_succ]
  simp only [ofMonthIndex_monthIndex h] at hday ⊢
  omega

theorem grid_months :
    Grid (fun i => (ofMonthIndex i).toDays) fun n => (ofDays n).monthIndex := by
  refine .of_bounds toDays_ofMonthIndex_lt_succ (fun n => ?_) fun n => ?_
  · obtain ⟨valid, hn⟩ := ofDays_spec n
    have hbounds := toDays_bounds valid
    omega
  · obtain ⟨valid, hn⟩ := ofDays_spec n
    have hbounds := toDays_bounds valid
    omega

theorem inRange_iff {n : Int} : InRange n ↔ -96465292 ≤ n ∧ n ≤ 95026236 := by
  have hfirst : firstDay = -96465292 := by decide
  have hlast : lastDay = 95026236 := by decide
  rw [InRange, hfirst, hlast]

theorem inRange_of_year {d : Date} (h : d.Valid) (hyear : -262143 ≤ d.year ∧ d.year ≤ 262142) :
    InRange d.toDays := by
  obtain ⟨hfirst, hlast⟩ := toDays_bounds h
  have hindex : 12 * -262143 ≤ d.monthIndex ∧ d.monthIndex + 1 ≤ 12 * 262143 := by
    obtain ⟨hfirst, hlast, -⟩ := h
    rw [monthIndex]
    omega
  have hstart := grid_months.start_mono hindex.1
  have hend := grid_months.start_mono hindex.2
  have hday : (⟨-262143, 1, 1⟩ : Date).toDays = -96465292 := by decide
  have hday' : (⟨262143, 1, 1⟩ : Date).toDays = 95026237 := by decide
  simp only [ofMonthIndex_mul, hday, hday'] at hstart hend
  rw [inRange_iff]
  omega

theorem ofDays_toDays {d : Date} (h : d.Valid) : ofDays d.toDays = d := by
  obtain ⟨valid, hdays⟩ := ofDays_spec d.toDays
  have hindex : (ofDays d.toDays).monthIndex = d.monthIndex :=
    grid_months.index_eq_iff.2 (toDays_bounds h)
  generalize ofDays d.toDays = e at *
  have hmonth := ofMonthIndex_monthIndex valid
  rw [hindex, ofMonthIndex_monthIndex h] at hmonth
  have hday : (e.day : Int) = d.day := by
    rw [toDays_eq_add valid, toDays_eq_add h, hindex] at hdays
    omega
  cases e
  cases d
  simp only [mk.injEq] at hmonth hday ⊢
  omega

theorem ofDays_toDays_ofMonthIndex (i : Int) :
    ofDays (ofMonthIndex i).toDays = ofMonthIndex i := ofDays_toDays (valid_ofMonthIndex i)

theorem valid_addMonths {d : Date} (h : d.Valid) (months : Nat) : (d.addMonths months).Valid := by
  have hmonth : 1 ≤ (d.addMonths months).month ∧ (d.addMonths months).month ≤ 12 := by
    simp only [addMonths]
    omega
  exact ⟨hmonth.1, hmonth.2, Nat.le_min.2 ⟨h.2.2.1, daysInMonth_pos _ hmonth⟩, Nat.min_le_right _ _⟩

theorem year_addMonths {d : Date} (h : d.Valid) {months : Nat} (hmonths : months ≤ 12) :
    d.year ≤ (d.addMonths months).year ∧ (d.addMonths months).year ≤ d.year + 1 := by
  obtain ⟨hfirst, hlast, -⟩ := h
  simp only [addMonths]
  omega

theorem addMonths_ofMonthIndex (i : Int) (months : Nat) :
    (ofMonthIndex i).addMonths months = ofMonthIndex (i + months) := by
  have hindex : 12 * (ofMonthIndex i).year + ((ofMonthIndex i).month - 1 : Nat) + months =
      i + months := by
    simp only [ofMonthIndex]
    omega
  rw [addMonths, hindex]
  exact congrArg (Date.mk _ _) (Nat.min_eq_left (valid_ofMonthIndex (i + months)).2.2.2)

end Date

end MailIndex
