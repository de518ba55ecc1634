import MailIndex.Text.Bands
import MailIndex.Text.Utf8

namespace MailIndex.Text

abbrev Interval := Nat × Nat

def cutAfter (places : List Nat) (r : Interval) : List Interval :=
  match places with
  | [] => [r]
  | n :: places =>
    if r.1 ≤ n ∧ n < r.2 then (r.1, n) :: cutAfter places (n + 1, r.2) else cutAfter places r

def cutBlocks (size : Nat) (r : Interval) : List Interval :=
  let first := (r.1 + size - 1) / size * size
  let last := (r.2 + 1) / size * size
  if r.1 / size = r.2 / size then [r]
  else
    (if r.1 < first then [(r.1, first - 1)] else []) ++
    (if first < last then [(first, last - 1)] else []) ++
    (if last ≤ r.2 then [(last, r.2)] else [])

/-- Cuts an interval until its octets can be chosen one by one, whatever the others are. -/
def cutForOctets (r : Interval) : List Interval :=
  (cutAfter [0x7F, 0x7FF, 0xFFFF] r).flatMap fun r =>
    if r.2 ≤ 0x7F then [r]
    else ((cutBlocks 64 r).flatMap (cutBlocks 0x1000)).flatMap (cutBlocks 0x40000)

def octetRanges (r : Interval) : List Interval :=
  let octets (n : Nat) : List Nat := (String.utf8EncodeChar (Char.ofNat n)).map UInt8.toNat
  (octets r.1).zip (octets r.2)

def utf8Ranges (set : Bands) : List (List Interval) :=
  ((set.inter Bands.scalars).ranges.flatMap cutForOctets).map octetRanges

end MailIndex.Text
