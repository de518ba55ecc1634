import MailIndex.CommandLine.Settings
import MailIndex.Index
import MailIndex.LogFilter
import MailIndex.Store.Image

namespace MailIndex

open CommandLine

def line (s : String) : String := s ++ "\n"

namespace ScanOutcome

def toLines (o : ScanOutcome) : String := String.join (o.ids.keys.map fun id => line (toString id))

def toJsonLine (o : ScanOutcome) : String :=
  let ids := String.intercalate "," (o.ids.keys.map toString)
  line ("\x7b\"complete\":" ++ toString o.complete ++ ",\"message_ids\":[" ++ ids ++ "]\x7d")

def render (json : Bool) (o : ScanOutcome) : String := if json then o.toJsonLine else o.toLines

end ScanOutcome

abbrev Files := String → Option Bytes

def parseFlags (list : String) : Except Error MessageFlags :=
  (MessageFlags.parseList list).mapError .flag

namespace CommandLine.Command

def runIndex (files : Files) (now : Millis) (m : MailboxId) (id : MessageId)
    (names : Option String) (date : Option Millis) (file : String) :
    Script (Except Error String) := do
  match files file with
  | none => return .error (.io s!"cannot read {file}")
  | some raw =>
    match parseFlags (names.getD "") with
    | .error e => return .error e
    | .ok parsed => return (← Index.storeRaw m id parsed raw (date.getD now)).map fun _ => ""

def runSearch (options : ScanOptions) (clock : Clock) (m : MailboxId) (terms : SearchTerms)
    (json : Bool) : Script (Except Error String) := do
  match terms.criteria with
  | .error e => return .error e
  | .ok criteria => return (← Index.answer options clock ⟨m, criteria⟩).map (·.render json)

def run (options : ScanOptions) (clock : Clock) (files : Files) (now : Millis) :
    Command → Script (Except Error String)
  | .index m id names date file => runIndex files now m id names date file
  | .search m terms json => runSearch options clock m terms json
  | .delete m ids => do
    let report ← Index.deleteMany m ids
    return .ok (line s!"removed {report.removed} cells, {report.failed} failures")
  | .flags m ids names => do
    match parseFlags names with
    | .error e => return .error e
    | .ok parsed => return .ok (line s!"updated {← Index.updateFlagsMany m ids parsed} messages")
  | .list m json => return (← Index.list options clock m).map (·.render json)

end CommandLine.Command

structure World where
  paths : Paths
  files : Files
  now : Millis
  clock : Clock

structure Run where
  exitCode : UInt32
  output : String
  error : Option Error
  index : Option (String × KeyedStore)

namespace Run

def version : String := line "mailpost 0.1.0"

def usage : String :=
  line "Usage: mailpost --mailpost-root-dir <DIR> [OPTIONS] <index|search|delete|flags|list>"

def ofUsageError : UsageError → Run
  | .version => ⟨0, version, none, none⟩
  | .help => ⟨0, usage, none, none⟩
  | _ => ⟨2, "", none, none⟩

def failed (e : Error) (index : Option (String × KeyedStore)) : Run := ⟨1, "", some e, index⟩

/-- Logging has to be set up before anything else: its filter must be one, and with logs in files
no file may stand in the place of their directory. -/
def checkLogging (paths : Paths) (settings : Settings) : Except Error Unit :=
  if ! LogFilter.isValid settings.logLevel then .error (.logLevel settings.logLevel)
  else if settings.logToFile && paths (settings.pathTo Settings.logsName) = some .file then
    .error (.io "File exists")
  else .ok ()

def openIndex (files : Files) (path : String) : Except Error KeyedStore :=
  match KeyedStore.ofImage? ((files path).getD []) with
  | some s => .ok s
  | none => .error (.store .unusable)

def ofSettings (w : World) (settings : Settings) : Run :=
  let path := settings.databasePath
  match checkLogging w.paths settings, openIndex w.files path with
  | .error e, _ => failed e none
  | _, .error e => failed e none
  | .ok (), .ok index =>
    let command := settings.command.run settings.scanOptions w.clock w.files w.now
    match command.run index with
    | (.error e, index) => failed e (some (path, index))
    | (.ok output, index) => ⟨0, output, none, some (path, index)⟩

def ofWords (w : World) (words : List String) : Run :=
  match CommandLine.parse w.paths words with
  | .error e => ofUsageError e
  | .ok settings => ofSettings w settings

end Run

end MailIndex
