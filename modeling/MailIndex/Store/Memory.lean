import MailIndex.Store.Basic

namespace MailIndex

abbrev RowCells := SortedMap Bytes Bytes

abbrev RowTable := SortedMap Bytes RowCells

structure MemoryStore where
  families : SortedMap Bytes RowTable

namespace MemoryStore

def empty : MemoryStore := ⟨∅⟩

instance : EmptyCollection MemoryStore := ⟨empty⟩

def table (s : MemoryStore) (family : Bytes) : RowTable := (s.families.get? family).getD ∅

def rowCells (s : MemoryStore) (family row : Bytes) : RowCells :=
  ((s.table family).get? row).getD ∅

def rowCount (s : MemoryStore) (family : Bytes) : Nat := (s.table family).size

def find? (s : MemoryStore) (a : CellAddress) : Option Bytes :=
  (s.rowCells a.family a.row).get? a.qualifier

def setRow (s : MemoryStore) (family row : Bytes) (cells : RowCells) : MemoryStore :=
  let rows := s.table family
  let rows := if cells.isEmpty then rows.erase row else rows.insert row cells
  ⟨s.families.insert family rows⟩

def insert (s : MemoryStore) (a : CellAddress) (value : Bytes) : MemoryStore :=
  s.setRow a.family a.row ((s.rowCells a.family a.row).insert a.qualifier value)

def erase (s : MemoryStore) (a : CellAddress) : MemoryStore :=
  match s.find? a with
  | none => s
  | some _ => s.setRow a.family a.row ((s.rowCells a.family a.row).erase a.qualifier)

def cellsOf (cells : RowCells) : List Cell := cells.entries.map fun e => ⟨e.1, e.2⟩

def rowsAt (s : MemoryStore) (family start : Bytes) : List (Bytes × RowCells) :=
  ((s.table family).entries.dropWhile fun e => decide (e.1 < start)).takeWhile fun e =>
    start.isPrefixOf e.1

def rowsFrom (s : MemoryStore) (family start : Bytes) (matcher : Matcher) : List Row :=
  (s.rowsAt family start).filterMap fun e => Row.ofCells? matcher e.1 (cellsOf e.2)

def collect (s : MemoryStore) (family start : Bytes) (matcher : Matcher) : IdSet :=
  (s.rowsAt family start).foldl (fun found e =>
    match Row.ofCells? matcher e.1 (cellsOf e.2) with
    | some row => row.harvest found
    | none => found) ∅

instance : RowStore MemoryStore where
  put s a value := (.ok (), s.insert a value)
  get s a := (.ok (s.find? a), s)
  delete s a := (.ok (s.find? a).isSome, s.erase a)
  visit s family start matcher visitor state :=
    (Scan.mk (s.rowsFrom family start matcher) none).visit visitor state
  collectIds s family start matcher := .ok (s.collect family start matcher)

end MemoryStore

end MailIndex
