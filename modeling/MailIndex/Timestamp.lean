import MailIndex.DateBucket
import MailIndex.Text.Blank
import MailIndex.Text.Decimal

namespace MailIndex

namespace Timestamp

open Text

def takeDigits (least most : Nat) (s : List Char) : Option (Nat × List Char) :=
  let run := (s.take most).takeWhile fun c => (digitValue? c).isSome
  if run.length < least then none
  else some (run.foldl (fun n c => 10 * n + (c.toNat - 48)) 0, s.drop run.length)

def expect (c : Char) : List Char → Option (List Char)
  | [] => none
  | d :: rest => if c = d then some rest else none

def takeFraction : List Char → Option (Nat × List Char)
  | '.' :: rest => do
    let (n, after) ← takeDigits 1 9 rest
    let scale := 9 - (rest.length - after.length)
    return (n * Nat.pow 10 scale / 1000000, after.dropWhile fun c => (digitValue? c).isSome)
  | s => some (0, s)

def takeOffset : List Char → Option (Int × List Char)
  | [] => none
  | c :: rest =>
    if c = 'Z' ∨ c = 'z' then some (0, rest)
    else if c = '+' ∨ c = '-' ∨ c = '\u2212' then do
      let (hours, rest) ← takeDigits 2 2 rest
      let rest ← expect ':' rest
      let (minutes, rest) ← takeDigits 2 2 rest
      if minutes ≥ 60 ∨ hours ≥ 24 then none
      let seconds : Int := 3600 * hours + 60 * minutes
      return (if c = '+' then seconds else -seconds, rest)
    else none

structure Clock where
  hour : Nat
  minute : Nat
  second : Nat
  milli : Nat
  deriving DecidableEq, Repr

/-- The sixtieth second counts as the end of the fifty-ninth. -/
def Clock.toMillis (c : Clock) : Nat :=
  3600000 * c.hour + 60000 * c.minute + 1000 * c.second + c.milli

def takeClock (s : List Char) : Option (Clock × List Char) := do
  let (hour, s) ← takeDigits 2 2 s
  let s ← expect ':' s
  let (minute, s) ← takeDigits 2 2 s
  let s ← expect ':' s
  let (second, s) ← takeDigits 2 2 s
  let (milli, s) ← takeFraction s
  if hour ≥ 24 ∨ minute ≥ 60 ∨ second > 60 then none
  return (⟨hour, minute, second, milli⟩, s)

def checkDate (d : Date) : Option Date :=
  if d.Valid ∧ Date.InRange d.toDays then some d else none

def readInstant (s : List Char) : Option Int := do
  let (year, s) ← takeDigits 4 4 s
  let s ← expect '-' s
  let (month, s) ← takeDigits 2 2 s
  let s ← expect '-' s
  let (day, s) ← takeDigits 2 2 s
  let s ← (expect 'T' s <|> expect 't' s <|> expect ' ' s)
  let (clock, s) ← takeClock s
  let (offset, s) ← takeOffset s
  if s ≠ [] then none
  let date ← checkDate ⟨year, month, day⟩
  return Millis.ofDay date.toDays + clock.toMillis - 1000 * offset

def takeYear : List Char → Option (Int × List Char)
  | '-' :: rest => (takeDigits 1 rest.length rest).map fun (n, s) => (-(n : Int), s)
  | '+' :: rest => (takeDigits 1 rest.length rest).map fun (n, s) => ((n : Int), s)
  | s => (takeDigits 1 4 s).map fun (n, s) => ((n : Int), s)

def readDate (s : List Char) : Option Date := do
  let (year, s) ← takeYear (trimStart s)
  let s ← expect '-' s
  let (month, s) ← takeDigits 1 2 (trimStart s)
  let s ← expect '-' s
  let (day, s) ← takeDigits 1 2 (trimStart s)
  if s ≠ [] then none
  checkDate ⟨year, month, day⟩

/-- Milliseconds are tried first, then an instant, then a date. -/
def parse (text : String) : Except DateError Millis :=
  let s := trim text.toList
  match readInt64 s with
  | .ok n => .ok (Int64.ofInt n)
  | .error _ =>
    match readInstant s <|> (readDate s).map (fun d => Millis.ofDay d.toDays) with
    | some n => .ok (Int64.ofInt n)
    | none => .error (.unreadable (String.ofList s))

end Timestamp

end MailIndex
