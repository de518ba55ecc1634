import MailIndex.Calendar
import MailIndex.Order

namespace MailIndex

/-- Milliseconds from the start of 1970. -/
abbrev Millis := Int64

inductive Resolution
  | year | month | day | hour | minute | second
  deriving DecidableEq, Repr

inductive DateOp
  | on | before | after
  deriving DecidableEq, Repr

def Resolution.name : Resolution → String
  | .year => "Year"
  | .month => "Month"
  | .day => "Day"
  | .hour => "Hour"
  | .minute => "Minute"
  | .second => "Second"

def DateOp.name : DateOp → String
  | .on => "On"
  | .before => "Before"
  | .after => "After"

inductive DateError
  | timestampOutOfRange (t : Millis)
  | bucketOutOfRange (t : Millis) (resolution : Resolution)
  | unreadable (text : String)
  deriving DecidableEq, Repr

def DateError.message : DateError → String
  | .timestampOutOfRange t => s!"Timestamp {t.toInt} ms is out of range"
  | .bucketOutOfRange t resolution =>
    s!"Cannot bucket timestamp {t.toInt} ms at {resolution.name} resolution"
  | .unreadable text =>
    s!"Cannot parse '{text}' as a date; use RFC 3339, YYYY-MM-DD or epoch milliseconds"

namespace Millis

def dayLength : Int := 86400000

def minDate : Millis := -62167219200000

def maxDate : Millis := 253402300799999

def ofInt? (n : Int) : Option Millis :=
  if -0x8000000000000000 ≤ n ∧ n < 0x8000000000000000 then some (Int64.ofInt n) else none

def ofDay (day : Int) : Int := dayLength * day

def day (t : Millis) : Except DateError Int :=
  let n := t.toInt / dayLength
  if Date.InRange n then .ok n else .error (.timestampOutOfRange t)

end Millis

namespace Resolution

def fixedLength : Resolution → Option Int
  | .year | .month => none
  | .day => some Millis.dayLength
  | .hour => some 3600000
  | .minute => some 60000
  | .second => some 1000

def months : Resolution → Nat
  | .year => 12
  | _ => 1

def firstDate (r : Resolution) (d : Date) : Date :=
  ⟨d.year, if r = .year then 1 else d.month, 1⟩

def checked (r : Resolution) (t : Millis) (n : Int) : Except DateError Millis :=
  match Millis.ofInt? n with
  | some m => .ok m
  | none => .error (.bucketOutOfRange t r)

def truncate (r : Resolution) (t : Millis) : Except DateError Millis :=
  match r.fixedLength with
  | some unit => r.checked t (t.toInt - t.toInt % unit)
  | none => do
    let day ← t.day
    r.checked t (Millis.ofDay (r.firstDate (Date.ofDays day)).toDays)

/-- Adds one unit; years and months move the date and keep the time of day. -/
def bucketEnd (r : Resolution) (t : Millis) : Except DateError Millis :=
  match r.fixedLength with
  | some unit => r.checked t (t.toInt + unit)
  | none => do
    let day ← t.day
    let later := ((Date.ofDays day).addMonths r.months).toDays
    if Date.InRange later then
      r.checked t (Millis.ofDay later + t.toInt % Millis.dayLength)
    else .error (.bucketOutOfRange t r)

end Resolution

def dateRange (op : DateOp) (t : Millis) (r : Resolution) :
    Except DateError (Bound Millis × Bound Millis) :=
  if t < Millis.minDate ∨ Millis.maxDate < t then .error (.bucketOutOfRange t r)
  else do
    let start ← r.truncate t
    let upper ← r.bucketEnd start
    match op with
    | .on => return (.included start, .excluded upper)
    | .before => return (.included Millis.minDate, .excluded start)
    | .after => return (.included upper, .included Millis.maxDate)

end MailIndex
