import MailIndex.CommandLine.Values
import MailIndex.MailboxScan

namespace MailIndex.CommandLine

structure SearchTerms where
  text : List String
  body : List String
  header : List (String × String)
  hasHeader : List String
  sender : List String
  recipient : List String
  cc : List String
  bcc : List String
  flagged : List String
  unflagged : List String
  on : Option Millis
  before : Option Millis
  after : Option Millis
  resolution : Option Resolution
  all : Bool

inductive Command
  | index (mailbox : MailboxId) (id : MessageId) (flags : Option String) (date : Option Millis)
      (file : String)
  | search (mailbox : MailboxId) (terms : SearchTerms) (json : Bool)
  | delete (mailbox : MailboxId) (ids : List IdRange)
  | flags (mailbox : MailboxId) (ids : List IdRange) (flags : String)
  | list (mailbox : MailboxId) (json : Bool)

structure Settings where
  logLevel : String
  ansiLogs : Bool
  jsonLogs : Bool
  logToFile : Bool
  maxLogFiles : UInt64
  root : String
  cacheSize : UInt64
  scanMode : ScanMode
  /-- Zero stands for no timeout. -/
  scanTimeout : UInt64
  scanFailure : FailurePolicy
  command : Command

namespace SearchTerms

def empty : SearchTerms :=
  ⟨[], [], [], [], [], [], [], [], [], [], none, none, none, none, false⟩

def addressCriteria (name : String) (values : List String) : List Criterion :=
  values.map (.headerAddress name)

def flagCriteria (isSet : Bool) (names : List String) : Except Error (List Criterion) :=
  names.mapM fun name =>
    match Flag.parse name with
    | .ok f => .ok (.flag f isSet)
    | .error cause => .error (.flag cause)

def dateResolution (a : SearchTerms) : Resolution := a.resolution.getD .day

def dateCriteria (a : SearchTerms) : List Criterion :=
  [(DateOp.on, a.on), (.before, a.before), (.after, a.after)].filterMap fun (op, date) =>
    date.map fun t => .internalDate op t a.dateResolution

def criteria (a : SearchTerms) : Except Error (List Criterion) := do
  let texts := a.text.map (.text · .full) ++ a.body.map (.text · .body)
  let headers := a.header.map (fun h => .headerContains h.1 h.2) ++ a.hasHeader.map .headerExists
  let addresses := addressCriteria "From" a.sender ++ addressCriteria "To" a.recipient ++
    addressCriteria "Cc" a.cc ++ addressCriteria "Bcc" a.bcc
  let flagged ← flagCriteria true a.flagged
  let unflagged ← flagCriteria false a.unflagged
  let all := if a.all then [.all] else []
  match texts ++ headers ++ addresses ++ flagged ++ unflagged ++ a.dateCriteria ++ all with
  | [] => .error .noCriteria
  | criteria => .ok criteria

end SearchTerms

namespace Settings

def scanOptions (s : Settings) : ScanOptions :=
  ⟨s.scanMode, s.scanFailure, if s.scanTimeout = 0 then none else some s.scanTimeout.toNat⟩

def pathTo (s : Settings) (name : String) : String :=
  if s.root.toList.getLast? = some '/' then s.root ++ name else s.root ++ "/" ++ name

def databaseName : String := "index.db"

def logsName : String := "logs"

def databasePath (s : Settings) : String := s.pathTo databaseName

end Settings

def required {α : Type} (a : Option α) : Except UsageError α :=
  match a with
  | some a => .ok a
  | none => .error .missingArgument

def resolutionChoices : List (String × Resolution) := [
  ("year", .year), ("month", .month), ("day", .day), ("hour", .hour), ("minute", .minute),
  ("second", .second)]

def scanModeChoices : List (String × ScanMode) := [("client", .client), ("colocated", .colocated)]

def policyChoices : List (String × FailurePolicy) :=
  [("partial", .partialResult), ("propagate", .propagate)]

structure IndexDraft where
  mailbox : Option MailboxId
  id : Option MessageId
  flags : Option String
  date : Option Millis
  file : Option String

namespace IndexDraft

def empty : IndexDraft := ⟨none, none, none, none, none⟩

def grammar : Grammar IndexDraft where
  options := [
    ("mailbox", .one mailbox (fun a d => { d with mailbox := some a }) readMailbox),
    ("id", .one id (fun a d => { d with id := some a }) readNumber),
    ("flags", .one flags (fun a d => { d with flags := some a }) readText),
    ("internal-date", .one date (fun a d => { d with date := some a }) readDate)]
  operands := [.one file (fun a d => { d with file := some a }) readFileName]
  subcommands := []
  hasVersion := false

def command (d : IndexDraft) : Except UsageError Command :=
  return .index (← required d.mailbox) (← required d.id) d.flags d.date (← required d.file)

end IndexDraft

structure SearchDraft where
  mailbox : Option MailboxId
  terms : SearchTerms
  json : Bool

namespace SearchDraft

def empty : SearchDraft := ⟨none, .empty, false⟩

def change (f : SearchTerms → SearchTerms) (d : SearchDraft) : SearchDraft :=
  { d with terms := f d.terms }

def texts (get : SearchTerms → List String) (set : SearchTerms → List String → SearchTerms) :
    Slot SearchDraft :=
  .many (fun a => change fun t => set t (get t ++ [a])) readText

def date (get : SearchTerms → Option Millis) (set : SearchTerms → Option Millis → SearchTerms) :
    Slot SearchDraft :=
  .one (fun d => get d.terms) (fun a => change fun t => set t (some a)) readDate

def grammar : Grammar SearchDraft where
  options := [
    ("mailbox", .one mailbox (fun a d => { d with mailbox := some a }) readMailbox),
    ("text", texts (·.text) fun t text => { t with text }),
    ("body", texts (·.body) fun t body => { t with body }),
    ("header", .many (fun a => change fun t => { t with header := t.header ++ [a] }) readHeader),
    ("has-header", texts (·.hasHeader) fun t hasHeader => { t with hasHeader }),
    ("from", texts (·.sender) fun t sender => { t with sender }),
    ("to", texts (·.recipient) fun t recipient => { t with recipient }),
    ("cc", texts (·.cc) fun t cc => { t with cc }),
    ("bcc", texts (·.bcc) fun t bcc => { t with bcc }),
    ("flagged", texts (·.flagged) fun t flagged => { t with flagged }),
    ("unflagged", texts (·.unflagged) fun t unflagged => { t with unflagged }),
    ("on", date (·.on) fun t on => { t with on }),
    ("before", date (·.before) fun t before => { t with before }),
    ("after", date (·.after) fun t after => { t with after }),
    ("resolution",
      .one (fun d => d.terms.resolution)
        (fun a => change fun t => { t with resolution := some a })
        (readChoice resolutionChoices)),
    ("all", .switch (fun d => d.terms.all) (change fun t => { t with all := true })),
    ("json", .switch json fun d => { d with json := true })]
  operands := []
  subcommands := []
  hasVersion := false

def command (d : SearchDraft) : Except UsageError Command :=
  return .search (← required d.mailbox) d.terms d.json

end SearchDraft

structure DeleteDraft where
  mailbox : Option MailboxId
  ids : Option (List IdRange)

namespace DeleteDraft

def empty : DeleteDraft := ⟨none, none⟩

def grammar : Grammar DeleteDraft where
  options := [("mailbox", .one mailbox (fun a d => { d with mailbox := some a }) readMailbox)]
  operands := [.one ids (fun a d => { d with ids := some a }) readIdSet]
  subcommands := []
  hasVersion := false

def command (d : DeleteDraft) : Except UsageError Command :=
  return .delete (← required d.mailbox) (← required d.ids)

end DeleteDraft

structure FlagsDraft where
  mailbox : Option MailboxId
  ids : Option (List IdRange)
  flags : Option String

namespace FlagsDraft

def empty : FlagsDraft := ⟨none, none, none⟩

def grammar : Grammar FlagsDraft where
  options := [("mailbox", .one mailbox (fun a d => { d with mailbox := some a }) readMailbox)]
  operands := [
    .one ids (fun a d => { d with ids := some a }) readIdSet,
    .one flags (fun a d => { d with flags := some a }) readText]
  subcommands := []
  hasVersion := false

def command (d : FlagsDraft) : Except UsageError Command :=
  return .flags (← required d.mailbox) (← required d.ids) (← required d.flags)

end FlagsDraft

structure ListDraft where
  mailbox : Option MailboxId
  json : Bool

namespace ListDraft

def empty : ListDraft := ⟨none, false⟩

def grammar : Grammar ListDraft where
  options := [
    ("mailbox", .one mailbox (fun a d => { d with mailbox := some a }) readMailbox),
    ("json", .switch json fun d => { d with json := true })]
  operands := []
  subcommands := []
  hasVersion := false

def command (d : ListDraft) : Except UsageError Command :=
  return .list (← required d.mailbox) d.json

end ListDraft

structure SettingsDraft where
  logLevel : Option String
  ansiLogs : Bool
  jsonLogs : Bool
  logToFile : Bool
  maxLogFiles : Option UInt64
  root : Option String
  cacheSize : Option UInt64
  scanMode : Option ScanMode
  scanTimeout : Option UInt64
  scanFailure : Option FailurePolicy

namespace SettingsDraft

def empty : SettingsDraft := ⟨none, false, false, false, none, none, none, none, none, none⟩

def grammar (paths : Paths) : Grammar SettingsDraft where
  options := [
    ("mailpost-log-level", .one logLevel (fun a d => { d with logLevel := some a }) readText),
    ("mailpost-ansi-logs", .switch ansiLogs fun d => { d with ansiLogs := true }),
    ("mailpost-json-logs", .switch jsonLogs fun d => { d with jsonLogs := true }),
    ("mailpost-log-to-file", .switch logToFile fun d => { d with logToFile := true }),
    ("mailpost-max-server-log-files",
      .one maxLogFiles (fun a d => { d with maxLogFiles := some a }) readNumber),
    ("mailpost-root-dir", .one root (fun a d => { d with root := some a }) (readRoot paths)),
    ("mailpost-cache-size", .one cacheSize (fun a d => { d with cacheSize := some a }) readNumber),
    ("mailpost-scan-mode",
      .one scanMode (fun a d => { d with scanMode := some a }) (readChoice scanModeChoices)),
    ("mailpost-scan-timeout-ms",
      .one scanTimeout (fun a d => { d with scanTimeout := some a }) readNumber),
    ("mailpost-scan-failure",
      .one scanFailure (fun a d => { d with scanFailure := some a }) (readChoice policyChoices))]
  operands := []
  subcommands := ["index", "search", "delete", "flags", "list"]
  hasVersion := true

/-- Colours are on by default, and there is no way to switch them off. -/
def settings (d : SettingsDraft) (command : Command) : Except UsageError Settings := do
  let root ← required d.root
  return {
    logLevel := d.logLevel.getD "info"
    ansiLogs := true
    jsonLogs := d.jsonLogs
    logToFile := d.logToFile
    maxLogFiles := d.maxLogFiles.getD 5
    root
    cacheSize := d.cacheSize.getD 134217728
    scanMode := d.scanMode.getD .client
    scanTimeout := d.scanTimeout.getD 0
    scanFailure := d.scanFailure.getD .partialResult
    command }

end SettingsDraft

def parseCommand (name : String) (words : List String) : Except UsageError Command :=
  match name with
  | "index" => do (← IndexDraft.grammar.readAll .empty words).command
  | "search" => do (← SearchDraft.grammar.readAll .empty words).command
  | "delete" => do (← DeleteDraft.grammar.readAll .empty words).command
  | "flags" => do (← FlagsDraft.grammar.readAll .empty words).command
  | "list" => do (← ListDraft.grammar.readAll .empty words).command
  | _ => .error ((SettingsDraft.grammar fun _ => none).helpOn words)

/-- The meaning of the words after the program's name. A subcommand is read to its end before the
last option in front of it is. -/
def parse (paths : Paths) (words : List String) : Except UsageError Settings := do
  let g := SettingsDraft.grammar paths
  let (p, found) ← g.read (g.start .empty) words
  match found with
  | none =>
    let p ← Grammar.settle p
    .error (if p.given then .missingSubcommand else .nothingGiven)
  | some (name, words) =>
    let command ← parseCommand name words
    let p ← Grammar.settle p
    p.draft.settings command

end MailIndex.CommandLine
