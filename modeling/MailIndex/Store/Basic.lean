import MailIndex.RowFilter
import MailIndex.RowKey

namespace MailIndex

abbrev IdSet := SortedSet MessageId

structure CellAddress where
  family : Bytes
  row : Bytes
  qualifier : Bytes
  deriving DecidableEq, Repr

inductive StoreCall
  | put | get | delete | scan
  deriving DecidableEq, Repr

def StoreCall.name : StoreCall → String
  | .put => "put"
  | .get => "get"
  | .delete => "delete"
  | .scan => "scan"

inductive StoreError
  | injected (call : StoreCall)
  | unusable
  deriving DecidableEq, Repr

def StoreError.message : StoreError → String
  | .injected call => s!"injected {call.name} failure"
  | .unusable => "Failed to create database"

structure Row where
  key : Bytes
  cells : List Cell
  deriving DecidableEq, Repr

namespace Row

def ofCells? (matcher : Matcher) (key : Bytes) (cells : List Cell) : Option Row :=
  match cells.filter fun c => matcher.holds key c with
  | [] => none
  | passing => some ⟨key, passing⟩

/-- The messages of a row. A row with a corrupt key has none, and corrupt qualifiers do not
count. -/
def ids (r : Row) : List MessageId :=
  match RowKey.decode r.key with
  | .error _ => []
  | .ok _ => r.cells.filterMap fun c => (Qualifier.decode c.qualifier).toOption

def harvest (r : Row) (found : IdSet) : IdSet := SortedSet.insertAll found r.ids

end Row

inductive Visit (σ : Type)
  | next : σ → Visit σ
  | stop : σ → Visit σ

structure Scan where
  rows : List Row
  failure : Option StoreError
  deriving DecidableEq, Repr

namespace Scan

def visitRows {σ : Type} (visitor : σ → Row → Visit σ) (state : σ) :
    List Row → σ × Option Unit
  | [] => (state, some ())
  | row :: rows =>
    match visitor state row with
    | .next state => visitRows visitor state rows
    | .stop state => (state, none)

def visit {σ : Type} (s : Scan) (visitor : σ → Row → Visit σ) (state : σ) :
    σ × Except StoreError Unit :=
  match visitRows visitor state s.rows, s.failure with
  | (state, some ()), some failure => (state, .error failure)
  | (state, _), _ => (state, .ok ())

def toRows (s : Scan) : Except StoreError (List Row) :=
  match s.failure with
  | some failure => .error failure
  | none => .ok s.rows

end Scan

/-- Sorted rows of cells. Each call touches one cell or only reads; nothing spans several calls. -/
class RowStore (σ : Type) where
  put : σ → CellAddress → Bytes → Except StoreError Unit × σ
  get : σ → CellAddress → Except StoreError (Option Bytes) × σ
  delete : σ → CellAddress → Except StoreError Bool × σ
  visit {τ : Type} : (store : σ) → (family start : Bytes) → Matcher →
    (visitor : τ → Row → Visit τ) → (state : τ) → τ × Except StoreError Unit
  collectIds (store : σ) (family start : Bytes) (matcher : Matcher) : Except StoreError IdSet :=
    match visit store family start matcher (fun found row => .next (row.harvest found)) ∅ with
    | (found, .ok ()) => .ok found
    | (_, .error failure) => .error failure

def RowStore.scan {σ : Type} [RowStore σ] (store : σ) (family start : Bytes)
    (matcher : Matcher) : Scan :=
  match visit store family start matcher (fun seen row => .next (row :: seen)) [] with
  | (seen, .ok ()) => ⟨seen.reverse, none⟩
  | (seen, .error failure) => ⟨seen.reverse, some failure⟩

end MailIndex
