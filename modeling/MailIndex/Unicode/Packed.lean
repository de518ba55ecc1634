import MailIndex.Text.Bands

namespace MailIndex.Unicode

open Text

structure Unpacking where
  changes : Bands
  last : Nat
  distance : Nat
  deriving DecidableEq, Repr

/-- A distance is a number of base 26 with its last digit in a small letter. -/
def Unpacking.step (u : Unpacking) (c : Char) : Unpacking :=
  if c.isUpper then { u with distance := 26 * u.distance + (c.toNat - 'A'.toNat) }
  else
    let change := u.last + (26 * u.distance + (c.toNat - 'a'.toNat))
    ⟨change :: u.changes, change, 0⟩

def unpack (lines : List String) : Bands :=
  ((lines.flatMap String.toList).foldl Unpacking.step ⟨[], 0, 0⟩).changes.reverse

structure NamedSet where
  names : List String
  packed : List String

def NamedSet.set (s : NamedSet) : Bands := unpack s.packed

end MailIndex.Unicode
