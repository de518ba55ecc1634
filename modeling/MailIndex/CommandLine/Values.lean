import MailIndex.CommandLine.Grammar
import MailIndex.Criterion
import MailIndex.Timestamp

namespace MailIndex.CommandLine

open Text

inductive PathKind
  | file | directory
  deriving DecidableEq, Repr

abbrev Paths := String → Option PathKind

def readText (s : String) : Except UsageError String := .ok s

def readNumber (s : String) : Except UsageError UInt64 :=
  (readUInt64 s.toList).mapError fun e => .badValue e.message

def readMailbox (s : String) : Except UsageError MailboxId :=
  (MailboxId.parse s).mapError fun e => .badValue e.message

def readDate (s : String) : Except UsageError Millis :=
  (Timestamp.parse s).mapError fun e => .badValue e.message

def readFileName (s : String) : Except UsageError String :=
  if s = "" then .error .badChoice else .ok s

def readChoice {α : Type} (choices : List (String × α)) (s : String) : Except UsageError α :=
  match choices.find? fun c => c.1 = s with
  | some (_, a) => .ok a
  | none => .error .badChoice

def splitOnce (mark : Char) (s : List Char) : Option (List Char × List Char) :=
  match s.span (· ≠ mark) with
  | (_, []) => none
  | (before, _ :: after) => some (before, after)

def readHeader (s : String) : Except UsageError (String × String) :=
  match splitOnce ':' s.toList with
  | none => .error (.badValue s!"Expected Name:value, got {quoted s.toList}")
  | some (name, value) =>
    if trim name = [] then .error (.badValue "Header name must not be empty")
    else .ok (String.ofList (trim name), String.ofList (trim value))

inductive IdSetError
  | badNumber (text : String) (fault : DecimalError)
  | reversed (text : String)
  | noIds
  deriving DecidableEq, Repr

def IdSetError.message : IdSetError → String
  | .badNumber text fault => s!"Invalid message id {quoted text.toList}: {fault.message}"
  | .reversed text => s!"Range {text} is reversed"
  | .noIds => "At least one message id is required"

def readMessageId (s : List Char) : Except IdSetError MessageId :=
  (readUInt64 (trim s)).mapError (.badNumber (String.ofList s))

def readRange (s : List Char) : Except IdSetError IdRange :=
  match splitOnce ':' s with
  | none => (readMessageId s).map fun id => ⟨id, id⟩
  | some (first, last) => do
    let first ← readMessageId first
    let last ← readMessageId last
    if last < first then .error (.reversed (String.ofList s)) else .ok ⟨first, last⟩

def idSetParts (s : List Char) : List (List Char) :=
  ((splitOn (· = ',') s).map trim).filter (· ≠ [])

def parseIdSet (s : String) : Except IdSetError (List IdRange) :=
  match idSetParts s.toList with
  | [] => .error .noIds
  | parts => parts.mapM readRange

def readIdSet (s : String) : Except UsageError (List IdRange) :=
  (parseIdSet s).mapError fun e => .badValue e.message

def readRoot (paths : Paths) (s : String) : Except UsageError String :=
  if s.toList.head? ≠ some '/' then
    .error (.badValue "Path must be an absolute directory path")
  else match paths s with
    | none => .error (.badValue s!"Path {quotedPath s.toList} does not exist")
    | some .file => .error (.badValue s!"Path {quotedPath s.toList} is not a directory")
    | some .directory => .ok s

end MailIndex.CommandLine
