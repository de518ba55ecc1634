import MailIndex.Field
import MailIndex.Mailbox
import MailIndex.Term

namespace MailIndex

abbrev MessageId := UInt64

inductive RowKeyError
  | tooShort (length : Nat)
  | unknownField (id : UInt8)
  | qualifierLength (length : Nat)
  deriving DecidableEq, Repr

def RowKeyError.message : RowKeyError → String
  | .tooShort length => s!"Row key is {length} bytes, shorter than the 17-byte prefix"
  | .unknownField id => s!"Unknown field id {id.toNat} in row key"
  | .qualifierLength length => s!"Qualifier must be 8 bytes, got {length}"

structure RowKey where
  mailbox : MailboxId
  field : Field
  term : Term
  deriving DecidableEq, Repr

namespace RowKey

def fieldStart (m : MailboxId) (f : Field) : Bytes := m.bytes ++ [f.id]

/-- The first two parts have a fixed length, so the term needs no mark. -/
def encode (k : RowKey) : Bytes := fieldStart k.mailbox k.field ++ k.term.bytes

def decodeField (id : UInt8) : Except RowKeyError Field :=
  match Field.ofId? id with
  | some f => .ok f
  | none => .error (.unknownField id)

def decode (row : Bytes) : Except RowKeyError RowKey :=
  match MailboxId.ofBytes? (row.take 16), row.drop 16 with
  | some m, id :: term => (decodeField id).map fun f => ⟨m, f, ⟨term⟩⟩
  | _, _ => .error (.tooShort row.length)

def flagsRow (m : MailboxId) : Bytes := encode ⟨m, .flags, .empty⟩

end RowKey

namespace Qualifier

def encode (id : MessageId) : Bytes := Bytes.bigEndian 8 id.toNat

def decode (qualifier : Bytes) : Except RowKeyError MessageId :=
  if qualifier.length = 8 then .ok (UInt64.ofNat (Bytes.toNatBE qualifier))
  else .error (.qualifierLength qualifier.length)

end Qualifier

end MailIndex
