import MailIndex.Proofs.BucketTiling
import MailIndex.Proofs.Text.Decimal

/-! Days and instants in writing, and what is read of their texts: each part is read from the front
of what follows it, and the forms that are tried before its own refuse each text. -/

namespace MailIndex

open Text

theorem Resolution.truncate_day_eq_ok_iff {t : Millis} {day : Int} (h : Date.InRange day) :
    Resolution.day.truncate t = .ok (Int64.ofInt (Millis.ofDay day)) ↔
      t.toInt / Millis.dayLength = day := by
  obtain ⟨hfirst, hlast⟩ := Date.inRange_iff.1 h
  have hword : -0x8000000000000000 ≤ Millis.ofDay day ∧ Millis.ofDay day < 0x8000000000000000 := by
    rw [Millis.ofDay, Millis.dayLength]
    omega
  constructor
  · intro htruncate
    have hstart := toInt_of_truncate_eq_ok htruncate
    rw [Millis.toInt_ofInt hword] at hstart
    exact (Millis.grid_days.start_inj.1 hstart).symm
  · rintro rfl
    have hreaches : Resolution.day.Reaches t.toInt := by
      intro hday
      cases hday
    have hchecked : Resolution.day.checked t (Millis.ofDay (t.toInt / Millis.dayLength)) =
        .ok (Int64.ofInt (Millis.ofDay (t.toInt / Millis.dayLength))) := by
      rw [checked, Millis.ofInt?, if_pos hword]
    rw [truncate_of_reaches hreaches]
    exact hchecked

namespace Date

structure InYears (d : Date) : Prop where
  valid : d.Valid
  year_nonneg : 0 ≤ d.year
  year_le : d.year ≤ 9999

def written (d : Date) : List Char :=
  padded 4 d.year.toNat ++ '-' :: (padded 2 d.month ++ '-' :: padded 2 d.day)

variable {d : Date}

theorem InYears.inRange (h : d.InYears) : InRange d.toDays :=
  inRange_of_year h.valid ⟨by have := h.year_nonneg; omega, by have := h.year_le; omega⟩

theorem InYears.year_lt (h : d.InYears) : d.year.toNat < 10 ^ 4 := by
  have hyear := h.year_le
  omega

theorem Valid.month_lt (h : d.Valid) : d.month < 10 ^ 2 := by
  have hmonth : d.month ≤ 12 := h.2.1
  omega

theorem Valid.day_lt (h : d.Valid) : d.day < 10 ^ 2 := by
  have hday : d.day ≤ Calendar.daysInMonth d.year d.month := h.2.2.2
  have hlength := Calendar.daysInMonth_le d.year d.month
  omega

end Date

namespace Timestamp

variable {least most w n : Nat} {c : Char} {s rest : List Char} {d : Date}

section Digits

def StopsDigits (rest : List Char) : Prop := ∀ c ∈ rest.head?, c.isDigit = false

theorem stopsDigits_cons (h : c.isDigit = false) : StopsDigits (c :: rest) := by
  rintro d ⟨⟩
  exact h

theorem StopsDigits.takeWhile_eq_nil (h : StopsDigits s) :
    s.takeWhile (fun c => (digitValue? c).isSome) = [] := by
  cases s with
  | nil => rfl
  | cons c s =>
    refine List.takeWhile_cons_of_neg ?_
    rw [isSome_digitValue?, h c rfl]
    exact Bool.false_ne_true

theorem StopsDigits.dropWhile_eq_self (h : StopsDigits s) :
    s.dropWhile (fun c => (digitValue? c).isSome) = s := by
  have hsplit := List.takeWhile_append_dropWhile (p := fun c => (digitValue? c).isSome) (l := s)
  rwa [h.takeWhile_eq_nil, List.nil_append] at hsplit

theorem StopsDigits.take (h : StopsDigits s) (n : Nat) : StopsDigits (s.take n) := by
  cases n with
  | zero => nofun
  | succ n =>
    cases s with
    | nil => exact h
    | cons c s => exact h

theorem takeDigits_append (hdigits : ∀ c ∈ s, c.isDigit = true) (hleast : least ≤ s.length)
    (hmost : s.length ≤ most) (hrest : s.length = most ∨ StopsDigits rest) :
    takeDigits least most (s ++ rest) = some (Nat.ofDigitChars 10 s 0, rest) := by
  have hstops : StopsDigits (rest.take (most - s.length)) := by
    rcases hrest with rfl | hrest
    · rw [Nat.sub_self]
      nofun
    · exact hrest.take _
  have hrun : ((s ++ rest).take most).takeWhile (fun c => (digitValue? c).isSome) = s := by
    rw [List.take_append, List.take_of_length_le hmost, List.takeWhile_append_of_pos,
      hstops.takeWhile_eq_nil, List.append_nil]
    intro c hc
    rw [isSome_digitValue?, hdigits c hc]
  rw [takeDigits]
  simp only [hrun]
  rw [if_neg (Nat.not_lt.2 hleast), List.drop_left]
  rfl

theorem takeDigits_padded (hn : n < 10 ^ w) (hleast : least ≤ w) (hmost : w ≤ most)
    (hrest : w = most ∨ StopsDigits rest) :
    takeDigits least most (padded w n ++ rest) = some (n, rest) := by
  have hlength := length_padded w n
  rw [takeDigits_append (fun _ => isDigit_of_mem_padded) (by omega) (by omega)
    (by rwa [hlength]), ofDigitChars_padded hn]

theorem takeDigits_width (hn : n < 10 ^ w) (rest : List Char) :
    takeDigits w w (padded w n ++ rest) = some (n, rest) :=
  takeDigits_padded hn (Nat.le_refl w) (Nat.le_refl w) (.inl rfl)

theorem takeDigits_width_end (hn : n < 10 ^ w) : takeDigits w w (padded w n) = some (n, []) := by
  simpa only [List.append_nil] using takeDigits_width hn []

theorem expect_cons (c : Char) (rest : List Char) : expect c (c :: rest) = some rest := if_pos rfl

end Digits

section Clock

def Clock.ofMillis (n : Nat) : Clock :=
  ⟨n / 3600000, n / 60000 % 60, n / 1000 % 60, n % 1000⟩

def Clock.written (c : Clock) : List Char :=
  padded 2 c.hour ++ ':' :: (padded 2 c.minute ++ ':' :: (padded 2 c.second ++
    '.' :: padded 3 c.milli))

theorem Clock.toMillis_ofMillis (n : Nat) : (ofMillis n).toMillis = n := by
  simp only [ofMillis, toMillis]
  omega

theorem takeFraction_written (hn : n < 1000) (hrest : StopsDigits rest) :
    takeFraction ('.' :: (padded 3 n ++ rest)) = some (n, rest) := by
  -- three of the nine digits of a fraction are there
  have hscale : 9 - ((padded 3 n ++ rest).length - rest.length) = 6 := by
    rw [List.length_append, length_padded]
    omega
  have hmillis : n * Nat.pow 10 6 / 1000000 = n := Nat.mul_div_cancel n (by decide)
  rw [takeFraction, takeDigits_padded hn (by decide) (by decide) (.inr hrest)]
  simp only [Option.bind_eq_bind, Option.bind_some, hscale, hmillis, hrest.dropWhile_eq_self]
  rfl

theorem takeClock_written (hn : n < 86400000) (hrest : StopsDigits rest) :
    takeClock ((Clock.ofMillis n).written ++ rest) = some (.ofMillis n, rest) := by
  have hhour : n / 3600000 < 10 ^ 2 := by omega
  have hminute : n / 60000 % 60 < 10 ^ 2 := by omega
  have hsecond : n / 1000 % 60 < 10 ^ 2 := by omega
  have hmilli : n % 1000 < 1000 := Nat.mod_lt n (by decide)
  have hface : ¬ (n / 3600000 ≥ 24 ∨ n / 60000 % 60 ≥ 60 ∨ n / 1000 % 60 > 60) := by omega
  rw [takeClock, Clock.written, Clock.ofMillis]
  simp only [List.append_assoc, List.cons_append, Option.bind_eq_bind, Option.bind_some,
    takeDigits_width hhour, takeDigits_width hminute, takeDigits_width hsecond, expect_cons,
    takeFraction_written hmilli hrest]
  rw [if_neg hface]
  rfl

end Clock

structure Offset where
  west : Bool
  hours : Nat
  minutes : Nat
  hours_lt : hours < 24
  minutes_lt : minutes < 60

namespace Offset

def seconds (o : Offset) : Int :=
  if o.west then -(3600 * o.hours + 60 * o.minutes) else 3600 * o.hours + 60 * o.minutes

def written (o : Offset) : List Char :=
  (if o.west then '-' else '+') :: (padded 2 o.hours ++ ':' :: padded 2 o.minutes)

end Offset

inductive Zone
  | utc
  | fixed (offset : Offset)

namespace Zone

def seconds : Zone → Int
  | utc => 0
  | fixed offset => offset.seconds

def written : Zone → List Char
  | utc => ['Z']
  | fixed offset => offset.written

def count (zone : Zone) (t : Millis) : Int := t.toInt + 1000 * zone.seconds

def date (zone : Zone) (t : Millis) : Date := .ofDays (zone.count t / Millis.dayLength)

def clock (zone : Zone) (t : Millis) : Clock := .ofMillis (zone.count t % Millis.dayLength).toNat

/-- `YYYY-MM-DDTHH:MM:SS.mmm` on the clocks of the zone, and the zone. -/
def stamp (zone : Zone) (t : Millis) : List Char :=
  (zone.date t).written ++ 'T' :: ((zone.clock t).written ++ zone.written)

end Zone

theorem takeOffset_written (zone : Zone) : takeOffset zone.written = some (zone.seconds, []) := by
  cases zone with
  | utc => rfl
  | fixed offset =>
    obtain ⟨west, hours, minutes, hhours, hminutes⟩ := offset
    have hhours' : hours < 10 ^ 2 := by omega
    have hminutes' : minutes < 10 ^ 2 := by omega
    have hday : ¬ (minutes ≥ 60 ∨ hours ≥ 24) := by omega
    cases west <;>
    · simp only [Zone.written, Zone.seconds, Offset.written, Offset.seconds, takeOffset]
      simp [takeDigits_width hhours', takeDigits_width_end hminutes', expect_cons, hday]

theorem stopsDigits_written (zone : Zone) : StopsDigits zone.written := by
  cases zone with
  | utc => exact stopsDigits_cons rfl
  | fixed offset =>
    refine stopsDigits_cons ?_
    cases offset.west <;> rfl

theorem checkDate_of_inYears (h : d.InYears) :
    checkDate ⟨d.year.toNat, d.month, d.day⟩ = some d := by
  rw [Int.toNat_of_nonneg h.year_nonneg]
  exact if_pos ⟨h.valid, h.inRange⟩

theorem readInstant_written (hd : d.InYears) (hn : n < 86400000) (zone : Zone) :
    readInstant (d.written ++ 'T' :: ((Clock.ofMillis n).written ++ zone.written)) =
      some (Millis.ofDay d.toDays + n - 1000 * zone.seconds) := by
  rw [readInstant, Date.written]
  simp only [List.append_assoc, List.cons_append, Option.bind_eq_bind, Option.bind_some,
    takeDigits_width hd.year_lt, takeDigits_width hd.valid.month_lt,
    takeDigits_width hd.valid.day_lt, expect_cons, Option.orElse_eq_orElse, Option.orElse_some,
    takeClock_written hn (stopsDigits_written zone), takeOffset_written, checkDate_of_inYears hd,
    Clock.toMillis_ofMillis]
  rfl

theorem readInstant_date (hd : d.InYears) : readInstant d.written = none := by
  rw [readInstant, Date.written]
  simp only [Option.bind_eq_bind, Option.bind_some, takeDigits_width hd.year_lt,
    takeDigits_width hd.valid.month_lt, takeDigits_width_end hd.valid.day_lt, expect_cons]
  rfl

theorem takeYear_padded (hn : n < 10 ^ 4) (rest : List Char) :
    takeYear (padded 4 n ++ rest) = some ((n : Int), rest) := by
  have hread : takeDigits 1 4 (padded 4 n ++ rest) = some (n, rest) :=
    takeDigits_padded hn (by decide) (Nat.le_refl 4) (.inl rfl)
  obtain ⟨c, s, hc, hcs⟩ := exists_padded_eq_cons (w := 4) (by decide) n
  obtain ⟨hminus, hplus⟩ := ne_sign_of_isDigit hc
  rw [hcs, List.cons_append] at hread ⊢
  -- the first digit rules out both signs, which are tried before it
  rw [takeYear, hread]
  · rfl
  · rintro rest ⟨⟩
    exact hminus rfl
  · rintro rest ⟨⟩
    exact hplus rfl

theorem readDate_written (hd : d.InYears) : readDate d.written = some d := by
  have hmonth : ∀ rest, takeDigits 1 2 (padded 2 d.month ++ rest) = some (d.month, rest) := by
    intro rest
    exact takeDigits_padded hd.valid.month_lt (by decide) (Nat.le_refl 2) (.inl rfl)
  have hday : takeDigits 1 2 (padded 2 d.day ++ []) = some (d.day, []) :=
    takeDigits_padded hd.valid.day_lt (by decide) (Nat.le_refl 2) (.inl rfl)
  have hblank : trimStart (padded 2 d.day ++ []) = padded 2 d.day ++ [] :=
    trimStart_padded_append (by decide) d.day []
  rw [List.append_nil] at hday hblank
  rw [readDate, Date.written, trimStart_padded_append (by decide)]
  simp only [Option.bind_eq_bind, Option.bind_some, takeYear_padded hd.year_lt, expect_cons,
    trimStart_padded_append (w := 2) (by decide), hmonth, hday, hblank, checkDate_of_inYears hd]
  rfl

theorem readInt64_written_ne_ok (d : Date) (rest : List Char) (n : Int) :
    readInt64 (d.written ++ rest) ≠ .ok n := by
  obtain ⟨c, s, hc, hcs⟩ := exists_padded_eq_cons (w := 4) (by decide) d.year.toNat
  rw [Date.written, hcs]
  exact readInt64_ne_ok (d := '-') hc (by simp) rfl n

section Parse

variable {text : String} {m : Int}

theorem parse_of_readInt64 (h : readInt64 (trim text.toList) = .ok m) :
    parse text = .ok (Int64.ofInt m) := by
  rw [parse]
  simp only [h]

theorem parse_of_readInstant (hnumber : ∀ k, readInt64 (trim text.toList) ≠ .ok k)
    (h : readInstant (trim text.toList) = some m) : parse text = .ok (Int64.ofInt m) := by
  rw [parse]
  cases hread : readInt64 (trim text.toList) with
  | ok k => exact absurd hread (hnumber k)
  | error e => simp [h]

theorem parse_of_readDate (hnumber : ∀ k, readInt64 (trim text.toList) ≠ .ok k)
    (hinstant : readInstant (trim text.toList) = none)
    (h : readDate (trim text.toList) = some d) :
    parse text = .ok (Int64.ofInt (Millis.ofDay d.toDays)) := by
  rw [parse]
  cases hread : readInt64 (trim text.toList) with
  | ok k => exact absurd hread (hnumber k)
  | error e => simp [hinstant, h]

theorem parse_between_blanks {before after : String}
    (hbefore : ∀ c ∈ before.toList, isBlank c = true)
    (hafter : ∀ c ∈ after.toList, isBlank c = true) :
    parse (before ++ text ++ after) = parse text := by
  have htrim : trim (before ++ text ++ after).toList = trim text.toList := by
    rw [String.toList_append, String.toList_append, trim_append_of_blank_right hafter,
      trim_append_of_blank hbefore]
  rw [parse, htrim, parse]

theorem not_isBlank_of_mem_date (d : Date) : ∀ c ∈ d.written, isBlank c = false := by
  simp only [Date.written, List.forall_mem_append, List.forall_mem_cons]
  exact ⟨not_isBlank_of_mem_padded, rfl, not_isBlank_of_mem_padded, rfl, not_isBlank_of_mem_padded⟩

theorem not_isBlank_of_mem_clock (clock : Clock) : ∀ c ∈ clock.written, isBlank c = false := by
  simp only [Clock.written, List.forall_mem_append, List.forall_mem_cons]
  exact ⟨not_isBlank_of_mem_padded, rfl, not_isBlank_of_mem_padded, rfl, not_isBlank_of_mem_padded,
    rfl, not_isBlank_of_mem_padded⟩

theorem not_isBlank_of_mem_zone (zone : Zone) : ∀ c ∈ zone.written, isBlank c = false := by
  cases zone with
  | utc =>
    rintro c hc
    rw [List.mem_singleton.1 hc]
    rfl
  | fixed offset =>
    simp only [Zone.written, Offset.written, List.forall_mem_append, List.forall_mem_cons]
    refine ⟨?_, not_isBlank_of_mem_padded, rfl, not_isBlank_of_mem_padded⟩
    cases offset.west <;> rfl

theorem not_isBlank_of_mem_stamp (zone : Zone) (t : Millis) :
    ∀ c ∈ zone.stamp t, isBlank c = false := by
  simp only [Zone.stamp, List.forall_mem_append, List.forall_mem_cons]
  exact ⟨not_isBlank_of_mem_date _, rfl, not_isBlank_of_mem_clock _, not_isBlank_of_mem_zone _⟩

theorem parse_stamp {zone : Zone} {t : Millis} (h : (zone.date t).InYears) :
    parse (String.ofList (zone.stamp t)) = .ok t := by
  have htrim : trim (String.ofList (zone.stamp t)).toList = zone.stamp t := by
    rw [String.toList_ofList, trim_eq_self_of_forall_not_isBlank (not_isBlank_of_mem_stamp zone t)]
  have hclock : (zone.count t % Millis.dayLength).toNat < 86400000 := by
    rw [Millis.dayLength]
    omega
  have hread := readInstant_written h hclock zone
  have hcount : Millis.ofDay (zone.date t).toDays + (zone.count t % Millis.dayLength).toNat -
      1000 * zone.seconds = t.toInt := by
    rw [Zone.date, (Date.ofDays_spec _).2, Millis.ofDay, Zone.count, Millis.dayLength]
    omega
  rw [hcount] at hread
  rw [parse_of_readInstant (m := t.toInt), Int64.ofInt_toInt]
  · rw [htrim]
    exact readInt64_written_ne_ok _ _
  · rw [htrim]
    exact hread

theorem parse_toString (n : Millis) : parse (toString n.toInt) = .ok n := by
  have hread : readInt64 (trim (toString n.toInt).toList) = .ok n.toInt := by
    rw [trim_eq_self_of_forall_not_isBlank (not_isBlank_of_mem_toString n.toInt),
      readInt64_toString]
  rw [parse_of_readInt64 hread, Int64.ofInt_toInt]

theorem parse_date (h : d.InYears) :
    parse (String.ofList d.written) = .ok (Int64.ofInt (Millis.ofDay d.toDays)) := by
  have htrim : trim (String.ofList d.written).toList = d.written := by
    rw [String.toList_ofList, trim_eq_self_of_forall_not_isBlank (not_isBlank_of_mem_date d)]
  apply parse_of_readDate <;> rw [htrim]
  · simpa using readInt64_written_ne_ok d []
  · exact readInstant_date h
  · exact readDate_written h

end Parse

theorem inYears_date_utc {t : Millis} (h : t.InYears) : (Zone.utc.date t).InYears := by
  have hfirst : Resolution.year.bucketStart 0 = -62167219200000 := by decide
  have hend : Resolution.year.bucketStart 10000 = 253402300800000 := by decide
  have hcount : Zone.utc.count t = t.toInt := Int.add_zero t.toInt
  have hyear : (Zone.utc.date t).year = Resolution.year.bucketIndex t.toInt := by
    rw [Zone.date, hcount, Resolution.bucketIndex_year]
    rfl
  obtain ⟨hmin, hmax⟩ := Millis.inYears_iff.1 h
  have hnonneg : 0 ≤ Resolution.year.bucketIndex t.toInt :=
    Resolution.year.grid.start_le_iff.1 (by omega)
  have hlt : Resolution.year.bucketIndex t.toInt < 10000 :=
    Resolution.year.grid.lt_start_iff.1 (by omega)
  exact ⟨(Date.ofDays_spec _).1, by omega, by omega⟩

theorem date_utc_eq_iff (h : d.InYears) (t : Millis) :
    Zone.utc.date t = d ↔
      Resolution.day.truncate t = .ok (Int64.ofInt (Millis.ofDay d.toDays)) := by
  have hcount : Zone.utc.count t = t.toInt := Int.add_zero t.toInt
  rw [Resolution.truncate_day_eq_ok_iff h.inRange, Zone.date, hcount]
  constructor
  · rintro rfl
    exact ((Date.ofDays_spec _).2).symm
  · intro hday
    rw [hday, Date.ofDays_toDays h.valid]

/-- Instants, in UTC or at any offset, numbers and days read back from their texts, a day as the
start of it; blanks around a text do not matter. -/
theorem parse_reads_back :
    (∀ t : Millis, t.InYears → parse (String.ofList (Zone.utc.stamp t)) = .ok t) ∧
    (∀ (offset : Offset) (t : Millis), ((Zone.fixed offset).date t).InYears →
      parse (String.ofList ((Zone.fixed offset).stamp t)) = .ok t) ∧
    (∀ n : Millis, parse (toString n.toInt) = .ok n) ∧
    (∀ d : Date, d.InYears → ∃ start : Millis, parse (String.ofList d.written) = .ok start ∧
      start.toInt = Millis.ofDay d.toDays ∧
      ∀ t : Millis, Zone.utc.date t = d ↔ Resolution.day.truncate t = .ok start) ∧
    ∀ before text after : String, (∀ c ∈ before.toList, isBlank c = true) →
      (∀ c ∈ after.toList, isBlank c = true) → parse (before ++ text ++ after) = parse text := by
  refine ⟨fun t ht => parse_stamp (inYears_date_utc ht), fun offset t ht => parse_stamp ht,
    parse_toString, fun d hd => ?_, fun before text after => parse_between_blanks⟩
  have hday := Date.inRange_iff.1 hd.inRange
  have hstart : (Int64.ofInt (Millis.ofDay d.toDays)).toInt = Millis.ofDay d.toDays := by
    apply Millis.toInt_ofInt
    rw [Millis.ofDay, Millis.dayLength]
    omega
  exact ⟨_, parse_date hd, hstart, date_utc_eq_iff hd⟩

example :
    String.ofList ((Zone.fixed ⟨true, 23, 59, by decide, by decide⟩).stamp Millis.maxDate) =
      "9999-12-31T00:00:59.999-23:59" := rfl

theorem parse_reads_back_at_ends :
    Millis.maxDate.InYears ∧
    parse (String.ofList (Zone.utc.stamp Millis.maxDate)) = .ok Millis.maxDate ∧
    (∃ east : Offset, ((Zone.fixed east).date Millis.minDate).InYears ∧
      parse (String.ofList ((Zone.fixed east).stamp Millis.minDate)) = .ok Millis.minDate) ∧
    (⟨0, 2, 29⟩ : Date).InYears ∧ Zone.utc.date (-62162078400000) = ⟨0, 2, 29⟩ ∧
    (∃ start, parse (String.ofList (Date.written ⟨0, 2, 29⟩)) = .ok start ∧
      Resolution.day.truncate (-62162078400000) = .ok start) ∧
    (∀ c ∈ " \t".toList, isBlank c = true) ∧ (∀ c ∈ "\n".toList, isBlank c = true) ∧
    parse (" \t" ++ "0000-02-29" ++ "\n") = parse "0000-02-29" := by
  obtain ⟨hutc, hoffset, -, hdate, hblanks⟩ := parse_reads_back
  have hmax : Millis.maxDate.InYears := by decide
  have hmin : ((Zone.fixed ⟨false, 23, 59, by decide, by decide⟩).date Millis.minDate).InYears :=
    ⟨(Date.ofDays_spec _).1, by decide, by decide⟩
  have hleap : (⟨0, 2, 29⟩ : Date).InYears := ⟨by decide, by decide, by decide⟩
  have hnoon : Zone.utc.date (-62162078400000) = ⟨0, 2, 29⟩ := rfl
  have hbefore : ∀ c ∈ " \t".toList, isBlank c = true := List.all_eq_true.1 rfl
  have hafter : ∀ c ∈ "\n".toList, isBlank c = true := List.all_eq_true.1 rfl
  obtain ⟨start, hstart, -, htruncate⟩ := hdate _ hleap
  exact ⟨hmax, hutc _ hmax, ⟨_, hmin, hoffset _ _ hmin⟩, hleap, hnoon,
    ⟨start, hstart, (htruncate _).1 hnoon⟩, hbefore, hafter, hblanks _ _ _ hbefore hafter⟩

end Timestamp

end MailIndex
