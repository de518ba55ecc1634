import MailIndex.Query
import MailIndex.Store.Basic

namespace MailIndex

inductive ErrorCode
  | invalidParameter | unsupportedCriterion | indexingFailed | corruptRowKey | scanAborted
  | storeError | internalError | ioError
  deriving DecidableEq, Repr

namespace ErrorCode

def all : List ErrorCode :=
  [.invalidParameter, .unsupportedCriterion, .indexingFailed, .corruptRowKey, .scanAborted,
    .storeError, .internalError, .ioError]

def name : ErrorCode → String
  | .invalidParameter => "InvalidParameter"
  | .unsupportedCriterion => "UnsupportedCriterion"
  | .indexingFailed => "IndexingFailed"
  | .corruptRowKey => "CorruptRowKey"
  | .scanAborted => "ScanAborted"
  | .storeError => "StoreError"
  | .internalError => "InternalError"
  | .ioError => "IoError"

/-- Faults of the caller from 10000, of the index from 60000, of the system from 70000. -/
def number : ErrorCode → Nat
  | .invalidParameter => 10000
  | .unsupportedCriterion => 10040
  | .indexingFailed => 60000
  | .corruptRowKey => 60010
  | .scanAborted => 60020
  | .storeError => 60030
  | .internalError => 70000
  | .ioError => 70020

def isRetriable : ErrorCode → Bool
  | .indexingFailed => true
  | .scanAborted => true
  | .storeError => true
  | _ => false

instance : ToString ErrorCode := ⟨fun c => s!"{c.name}({c.number})"⟩

end ErrorCode

def durationText (ms : Nat) : String :=
  if ms = 0 then "0ns"
  else if ms < 1000 then s!"{ms}ms"
  else
    let thousandths := ms % 1000
    let digits := [thousandths / 100, thousandths / 10 % 10, thousandths % 10]
    match (digits.reverse.dropWhile (· = 0)).reverse with
    | [] => s!"{ms / 1000}s"
    | fraction => s!"{ms / 1000}." ++ String.join (fraction.map toString) ++ "s"

inductive ScanFault
  | store (cause : StoreError)
  | expired (timeout : Nat)
  deriving DecidableEq, Repr

def ScanFault.message : ScanFault → String
  | .store cause => cause.message
  | .expired timeout => s!"Scan exceeded its Some({durationText timeout}) timeout"

inductive Error
  | mailbox (cause : MailboxError)
  | date (cause : DateError)
  | flag (cause : FlagError)
  | rowKey (cause : RowKeyError)
  | filter (cause : FilterError)
  | query (cause : QueryError)
  | request (cause : RequestError)
  | noCriteria
  | unreadableMessage
  | writeFlags (id : MessageId) (cause : StoreError)
  | writePosting (field : Field) (id : MessageId) (cause : StoreError)
  | scanAborted (m : MailboxId) (fault : ScanFault)
  | store (cause : StoreError)
  | logLevel (text : String)
  | io (text : String)
  deriving DecidableEq, Repr

namespace Error

def code : Error → ErrorCode
  | .mailbox _ => .invalidParameter
  | .date _ => .invalidParameter
  | .flag _ => .invalidParameter
  | .rowKey _ => .corruptRowKey
  | .filter _ => .invalidParameter
  | .query (.date _) => .invalidParameter
  | .query (.unsupported _) => .unsupportedCriterion
  | .request _ => .invalidParameter
  | .noCriteria => .invalidParameter
  | .unreadableMessage => .indexingFailed
  | .writeFlags _ _ => .indexingFailed
  | .writePosting _ _ _ => .indexingFailed
  | .scanAborted _ _ => .scanAborted
  | .store _ => .storeError
  | .logLevel _ => .invalidParameter
  | .io _ => .ioError

def message (engine : String → String) : Error → String
  | .mailbox cause => cause.message
  | .date cause => cause.message
  | .flag cause => cause.message
  | .rowKey cause => cause.message
  | .filter cause => cause.message engine
  | .query cause => cause.message
  | .request cause => cause.message
  | .noCriteria => "At least one search criterion is required (use --all to list everything)"
  | .unreadableMessage => "Failed to parse message for indexing"
  | .writeFlags id cause => s!"Failed to write flags of message {id}: {cause.message}"
  | .writePosting field id cause =>
    s!"Failed to write {field.name} posting of message {id}: {cause.message}"
  | .scanAborted m fault => s!"Scan of mailbox {m} aborted: {fault.message}"
  | .store cause => cause.message
  | .logLevel text => s!"Invalid log level {Text.quoted text.toList}"
  | .io text => s!"I/O error: {text}"

end Error

end MailIndex
