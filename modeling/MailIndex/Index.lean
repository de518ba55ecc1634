import MailIndex.Extraction
import MailIndex.MailboxScan

namespace MailIndex

structure DeleteReport where
  removed : Nat
  failed : Nat
  deriving DecidableEq, Repr

instance : Add DeleteReport := ⟨fun r s => ⟨r.removed + s.removed, r.failed + s.failed⟩⟩

namespace Index

def presence : Bytes := [1]

def flagsCell (m : MailboxId) (id : MessageId) : CellAddress :=
  ⟨postingFamily, RowKey.flagsRow m, Qualifier.encode id⟩

def postingCell (m : MailboxId) (id : MessageId) (p : Posting) : CellAddress :=
  ⟨postingFamily, RowKey.encode ⟨m, p.field, p.term⟩, Qualifier.encode id⟩

def writePostings (m : MailboxId) (id : MessageId) : List Posting → Script (Except Error Unit)
  | [] => return .ok ()
  | p :: ps => do
    match ← Script.putCell (postingCell m id p) presence with
    | .error cause => return .error (.writePosting p.field id cause)
    | .ok () => writePostings m id ps

def storable (ps : Postings) : List Posting := ps.toList.filter fun p => p.field ≠ .flags

/-- Writes the flags first, then one cell for each posting. A failure leaves the rest unwritten;
storing again writes the same cells. -/
def store (m : MailboxId) (id : MessageId) (flags : MessageFlags) (ps : Postings) :
    Script (Except Error Unit) := do
  match ← Script.putCell (flagsCell m id) flags.encodeBytes with
  | .error cause => return .error (.writeFlags id cause)
  | .ok () => writePostings m id (storable ps)

def storeRawWith (parse : Bytes → Option Mime.Message) (m : MailboxId) (id : MessageId)
    (flags : MessageFlags) (raw : Bytes) (date : Millis) : Script (Except Error Unit) :=
  match extractWith? parse raw date with
  | none => return .error .unreadableMessage
  | some ps => store m id flags ps

def storeRaw : MailboxId → MessageId → MessageFlags → Bytes → Millis → Script (Except Error Unit) :=
  storeRawWith Mime.Message.parse?

def updateFlags (m : MailboxId) (id : MessageId) (flags : MessageFlags) : Script Bool := do
  match ← Script.getCell (flagsCell m id) with
  | .ok (some _) => return (← Script.putCell (flagsCell m id) flags.encodeBytes).isOk
  | _ => return false

def updateFlagsOf (m : MailboxId) (flags : MessageFlags) : List MessageId → Script Nat
  | [] => return 0
  | id :: ids => do
    let updated ← updateFlags m id flags
    let others ← updateFlagsOf m flags ids
    return updated.toNat + others

def updateFlagsMany (m : MailboxId) (ranges : List IdRange) (flags : MessageFlags) : Script Nat :=
  updateFlagsOf m flags (IdRange.allIds ranges)

/-- A cell that is gone already counts neither way. -/
def deleteCells (qualifier : Bytes) : List Bytes → Script DeleteReport
  | [] => return ⟨0, 0⟩
  | row :: rows => do
    let report := match ← Script.deleteCell ⟨postingFamily, row, qualifier⟩ with
      | .ok true => ⟨1, 0⟩
      | .ok false => ⟨0, 0⟩
      | .error _ => ⟨0, 1⟩
    return report + (← deleteCells qualifier rows)

def delete (m : MailboxId) (id : MessageId) : Script DeleteReport := do
  let qualifier := Qualifier.encode id
  match (← Script.scanRows postingFamily m.bytes (.qualifierEquals qualifier)).toRows with
  | .error _ => return ⟨0, 1⟩
  | .ok rows => deleteCells qualifier (rows.map (·.key))

def deleteEach (m : MailboxId) : List MessageId → Script DeleteReport
  | [] => return ⟨0, 0⟩
  | id :: ids => do
    let report ← delete m id
    return report + (← deleteEach m ids)

def deleteMany (m : MailboxId) (ranges : List IdRange) : Script DeleteReport :=
  deleteEach m (IdRange.allIds ranges)

def searchWith (read : String → Except FilterError Regex) (options : ScanOptions) (clock : Clock)
    (m : MailboxId) (criteria : List Criterion) : Script (Except Error ScanOutcome) :=
  match Query.compile m criteria with
  | .error cause => return .error (.query cause)
  | .ok filter => MailboxScan.runWith read options clock m filter

def search : ScanOptions → Clock → MailboxId → List Criterion → Script (Except Error ScanOutcome) :=
  searchWith Filter.readPattern

def answer (options : ScanOptions) (clock : Clock) (r : SearchRequest) :
    Script (Except Error ScanOutcome) :=
  match r.validate with
  | .error cause => return .error (.request cause)
  | .ok () => search options clock r.mailbox r.criteria

def list (options : ScanOptions) (clock : Clock) (m : MailboxId) :
    Script (Except Error ScanOutcome) :=
  search options clock m [.all]

end Index

end MailIndex
