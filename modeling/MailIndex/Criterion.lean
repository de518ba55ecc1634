import MailIndex.DateBucket
import MailIndex.Flag
import MailIndex.Mailbox
import MailIndex.RowKey

namespace MailIndex

structure IdRange where
  first : MessageId
  last : MessageId
  deriving DecidableEq, Repr

namespace IdRange

def ids (r : IdRange) : List MessageId :=
  (List.range' r.first.toNat (r.last.toNat + 1 - r.first.toNat)).map UInt64.ofNat

def allIds (ranges : List IdRange) : List MessageId := ranges.flatMap ids

end IdRange

inductive TextScope
  | body
  | full
  deriving DecidableEq, Repr

/-- One condition on messages. The last four are part of the language but have no postings. -/
inductive Criterion
  | text (value : String) (scope : TextScope)
  | headerContains (name value : String)
  | headerExists (name : String)
  | headerAddress (name value : String)
  | flag (flag : Flag) (isSet : Bool)
  | internalDate (op : DateOp) (timestamp : Millis) (resolution : Resolution)
  | all
  | size (largerThan smallerThan : Option UInt64)
  | uid (ranges : List IdRange)
  | modSeq (n : UInt64)
  | not (criterion : Criterion)
  deriving DecidableEq, Repr

namespace Criterion

def kind : Criterion → String
  | .text _ _ => "text"
  | .headerContains _ _ => "header-contains"
  | .headerExists _ => "header-exists"
  | .headerAddress _ _ => "header-address"
  | .flag _ _ => "flag"
  | .internalDate _ _ _ => "internal-date"
  | .all => "all"
  | .size _ _ => "size"
  | .uid _ => "uid"
  | .modSeq _ => "modseq"
  | .not _ => "not"

def headerName? : Criterion → Option String
  | .headerContains name _ => some name
  | .headerExists name => some name
  | .headerAddress name _ => some name
  | _ => none

end Criterion

inductive RequestError
  | tooManyCriteria (count : Nat)
  | blankHeaderName
  deriving DecidableEq, Repr

structure SearchRequest where
  mailbox : MailboxId
  criteria : List Criterion

namespace SearchRequest

def maxCriteria : Nat := 256

def validate (r : SearchRequest) : Except RequestError Unit :=
  if r.criteria.length > maxCriteria then .error (.tooManyCriteria r.criteria.length)
  else if r.criteria.any fun c => c.headerName?.any fun name => Text.trim name.toList = [] then
    .error .blankHeaderName
  else .ok ()

end SearchRequest

def RequestError.message : RequestError → String
  | .tooManyCriteria count =>
    s!"A search may hold at most {SearchRequest.maxCriteria} criteria, got {count}."
  | .blankHeaderName => "Header criteria need a header name."

end MailIndex
