import MailIndex.Store.CellKey

namespace MailIndex

structure KeyedStore where
  cells : SortedMap Bytes Bytes

namespace KeyedStore

def empty : KeyedStore := ⟨∅⟩

instance : EmptyCollection KeyedStore := ⟨empty⟩

def cellsFrom (s : KeyedStore) (start : Bytes) : List (Bytes × Cell) :=
  (s.cells.entries.filter fun e => start.isPrefixOf e.1).filterMap fun e =>
    (CellKey.decode e.1).map fun a => (a.row, ⟨a.qualifier, e.2⟩)

section Visiting

variable {τ : Type} (matcher : Matcher) (visitor : τ → Row → Visit τ)

def flush (state : τ) : Option Row → Visit τ
  | none => .next state
  | some row => if row.cells.isEmpty then .next state else visitor state row

def gather (current : Option Row) (key : Bytes) (cell : Cell) : Row :=
  let row := current.getD ⟨key, []⟩
  if matcher.holds key cell then { row with cells := row.cells ++ [cell] } else row

/-- Goes through cells one by one; a row is shown when the next one begins, the last one at the
end. `none` tells that the visitor stopped. -/
def visitCells (state : τ) (current : Option Row) : List (Bytes × Cell) → τ × Option Unit
  | [] =>
    match flush visitor state current with
    | .next state => (state, some ())
    | .stop state => (state, none)
  | (key, cell) :: rest =>
    if current.any fun row => row.key != key then
      match flush visitor state current with
      | .next state => visitCells state (some (gather matcher none key cell)) rest
      | .stop state => (state, none)
    else visitCells state (some (gather matcher current key cell)) rest

end Visiting

instance : RowStore KeyedStore where
  put s a value := (.ok (), ⟨s.cells.insert (CellKey.encode a) value⟩)
  get s a := (.ok (s.cells.get? (CellKey.encode a)), s)
  delete s a :=
    let key := CellKey.encode a
    match s.cells.get? key with
    | none => (.ok false, s)
    | some _ => (.ok true, ⟨s.cells.erase key⟩)
  visit s family start matcher visitor state :=
    let cells := s.cellsFrom (CellKey.scanStart family start)
    ((visitCells matcher visitor state none cells).1, .ok ())

end KeyedStore

end MailIndex
