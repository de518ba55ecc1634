namespace MailIndex.Text

/-- The first change enters the set, the next leaves it, and so on. -/
abbrev Bands := List Nat

def inBands (changes : Bands) (n : Nat) : Bool :=
  (changes.takeWhile (· ≤ n)).length % 2 == 1

namespace Bands

def none : Bands := []

def single (n : Nat) : Bands := [n, n + 1]

def range (lo hi : Nat) : Bands := [lo, hi + 1]

/-- Joins two sets by a rule for membership, which keeps out what is in neither; `a` and `b` tell
where the changes so far have led. -/
def combine (rule : Bool → Bool → Bool) (a b : Bool) : Bands → Bands → Bands
  | [], [] => []
  | x :: s, [] => change x (! a) b (combine rule (! a) b s [])
  | [], y :: t => change y a (! b) (combine rule a (! b) [] t)
  | x :: s, y :: t =>
    if x < y then change x (! a) b (combine rule (! a) b s (y :: t))
    else if y < x then change y a (! b) (combine rule a (! b) (x :: s) t)
    else change x (! a) (! b) (combine rule (! a) (! b) s t)
  termination_by s t => s.length + t.length
where
  change (x : Nat) (a' b' : Bool) (rest : Bands) : Bands :=
    if rule a b = rule a' b' then rest else x :: rest

def union (s t : Bands) : Bands := combine (fun a b => a || b) false false s t

def inter (s t : Bands) : Bands := combine (fun a b => a && b) false false s t

def diff (s t : Bands) : Bands := combine (fun a b => a && ! b) false false s t

def symmDiff (s t : Bands) : Bands := combine (fun a b => a != b) false false s t

def unions (sets : List Bands) : Bands := sets.foldl union none

def ranges : Bands → List (Nat × Nat)
  | x :: y :: s => (x, y - 1) :: ranges s
  | _ => []

def ofSorted (ns : List Nat) : Bands :=
  ns.foldr (fun n s =>
    match s with
    | m :: t => if m = n + 1 then n :: t else n :: (n + 1) :: m :: t
    | [] => [n, n + 1]) none

def octets : Bands := [0, 256]

def scalars : Bands := [0, 0xD800, 0xE000, 0x110000]

end Bands

end MailIndex.Text
