/-! The Gregorian calendar, run backwards and forwards without end, counted in days from 1970. -/

namespace MailIndex

namespace Calendar

def isLeap (year : Int) : Bool :=
  year % 4 == 0 && (year % 100 != 0 || year % 400 == 0)

def monthLengths (year : Int) : List Nat :=
  [31, if isLeap year then 29 else 28, 31, 30, 31, 30, 31, 31, 30, 31, 30, 31]

def yearLength (year : Int) : Nat := if isLeap year then 366 else 365

def daysInMonth (year : Int) (month : Nat) : Nat := (monthLengths year).getD (month - 1) 0

def daysBeforeYear (year : Int) : Int :=
  365 * (year - 1) + (year - 1) / 4 - (year - 1) / 100 + (year - 1) / 400

def daysBeforeMonth (year : Int) (month : Nat) : Nat :=
  ((monthLengths year).take (month - 1)).foldr (· + ·) 0

def epochDay : Int := 719162

def yearOf (day : Int) : Int :=
  let cycle := day % 146097
  let century := min (cycle / 36524) 3
  let rest := cycle - 36524 * century
  let year := min (rest % 1461 / 365) 3
  400 * (day / 146097) + 100 * century + 4 * (rest / 1461) + year + 1

def monthAndDay (first dayOfYear : Nat) : List Nat → Nat × Nat
  | [] => (first, dayOfYear + 1)
  | length :: later =>
    if dayOfYear < length then (first, dayOfYear + 1)
    else monthAndDay (first + 1) (dayOfYear - length) later

end Calendar

structure Date where
  year : Int
  month : Nat
  day : Nat
  deriving DecidableEq, Repr

namespace Date

open Calendar

def Valid (d : Date) : Prop :=
  1 ≤ d.month ∧ d.month ≤ 12 ∧ 1 ≤ d.day ∧ d.day ≤ daysInMonth d.year d.month

instance (d : Date) : Decidable d.Valid := inferInstanceAs (Decidable (_ ∧ _))

def toDays (d : Date) : Int :=
  daysBeforeYear d.year + daysBeforeMonth d.year d.month + d.day - 1 - epochDay

def ofDays (n : Int) : Date :=
  let day := n + epochDay
  let year := yearOf day
  let (month, dayOfMonth) := monthAndDay 1 (day - daysBeforeYear year).toNat (monthLengths year)
  ⟨year, month, dayOfMonth⟩

/-- A day past the end of the new month becomes its last day. -/
def addMonths (d : Date) (months : Nat) : Date :=
  let index := 12 * d.year + (d.month - 1 : Nat) + months
  let year := index / 12
  let month := (index % 12).toNat + 1
  ⟨year, month, min d.day (daysInMonth year month)⟩

/-- The calendar is kept for days between these, both included. -/
def firstDay : Int := toDays ⟨-262143, 1, 1⟩

def lastDay : Int := toDays ⟨262142, 12, 31⟩

def InRange (day : Int) : Prop := firstDay ≤ day ∧ day ≤ lastDay

instance (day : Int) : Decidable (InRange day) := inferInstanceAs (Decidable (_ ∧ _))

end Date

end MailIndex
