import MailIndex.Store.Basic

/-! Work on a store as the sequence of its calls, apart from the store that answers them. -/

namespace MailIndex

inductive Script (α : Type) : Type
  | done (result : α)
  | put (a : CellAddress) (value : Bytes) (next : Except StoreError Unit → Script α)
  | get (a : CellAddress) (next : Except StoreError (Option Bytes) → Script α)
  | delete (a : CellAddress) (next : Except StoreError Bool → Script α)
  | scan (family start : Bytes) (matcher : Matcher) (next : Scan → Script α)
  | collectIds (family start : Bytes) (matcher : Matcher)
      (next : Except StoreError IdSet → Script α)

namespace Script

variable {α β σ : Type}

def bind : Script α → (α → Script β) → Script β
  | done result, f => f result
  | put a value next, f => put a value fun answer => bind (next answer) f
  | get a next, f => get a fun answer => bind (next answer) f
  | delete a next, f => delete a fun answer => bind (next answer) f
  | scan family start matcher next, f => scan family start matcher fun s => bind (next s) f
  | collectIds family start matcher next, f =>
    collectIds family start matcher fun answer => bind (next answer) f

instance : Monad Script where
  pure := done
  bind := bind

def putCell (a : CellAddress) (value : Bytes) : Script (Except StoreError Unit) := put a value done

def getCell (a : CellAddress) : Script (Except StoreError (Option Bytes)) := get a done

def deleteCell (a : CellAddress) : Script (Except StoreError Bool) := delete a done

def scanRows (family start : Bytes) (matcher : Matcher) : Script Scan :=
  scan family start matcher done

def collect (family start : Bytes) (matcher : Matcher) : Script (Except StoreError IdSet) :=
  collectIds family start matcher done

def run [RowStore σ] : Script α → σ → α × σ
  | done result, s => (result, s)
  | put a value next, s =>
    let (answer, s) := RowStore.put s a value
    run (next answer) s
  | get a next, s =>
    let (answer, s) := RowStore.get s a
    run (next answer) s
  | delete a next, s =>
    let (answer, s) := RowStore.delete s a
    run (next answer) s
  | scan family start matcher next, s => run (next (RowStore.scan s family start matcher)) s
  | collectIds family start matcher next, s =>
    run (next (RowStore.collectIds s family start matcher)) s

end Script

end MailIndex
