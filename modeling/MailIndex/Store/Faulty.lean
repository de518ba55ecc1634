import MailIndex.Store.Memory

namespace MailIndex

/-- How many more calls succeed, and how many rows every scan comes to; without a number there is
no end. -/
structure Faults where
  put : Option Nat
  get : Option Nat
  delete : Option Nat
  scan : Option Nat
  deriving DecidableEq, Repr

namespace Faults

def none : Faults := ⟨.none, .none, .none, .none⟩

def spend : Option Nat → Bool × Option Nat
  | .none => (true, .none)
  | some 0 => (false, some 0)
  | some (n + 1) => (true, some n)

def limit (limit : Option Nat) (s : Scan) : Scan :=
  match limit with
  | .none => s
  | some n => if s.rows.length ≤ n then s else ⟨s.rows.take n, some (.injected .scan)⟩

end Faults

structure FaultyStore where
  cells : MemoryStore
  faults : Faults

namespace FaultyStore

def empty : FaultyStore := ⟨∅, .none⟩

instance : EmptyCollection FaultyStore := ⟨empty⟩

instance : RowStore FaultyStore where
  put s a value :=
    match Faults.spend s.faults.put with
    | (true, left) => (.ok (), ⟨s.cells.insert a value, { s.faults with put := left }⟩)
    | (false, _) => (.error (.injected .put), s)
  get s a :=
    match Faults.spend s.faults.get with
    | (true, left) => (.ok (s.cells.find? a), { s with faults := { s.faults with get := left } })
    | (false, _) => (.error (.injected .get), s)
  delete s a :=
    match Faults.spend s.faults.delete with
    | (true, left) =>
      (.ok (s.cells.find? a).isSome, ⟨s.cells.erase a, { s.faults with delete := left }⟩)
    | (false, _) => (.error (.injected .delete), s)
  visit s family start matcher visitor state :=
    (Faults.limit s.faults.scan ⟨s.cells.rowsFrom family start matcher, .none⟩).visit visitor state

end FaultyStore

end MailIndex
