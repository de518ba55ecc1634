import MailIndex.Program
import Std.Time.DateTime.Timestamp

namespace MailIndex.CommandLine

def attempt {α : Type} (action : IO α) : IO (Option α) := do
  try
    return some (← action)
  catch _ =>
    return none

def pathKind (path : String) : IO (Option PathKind) := do
  match ← attempt (IO.FS.Handle.mk path .read) with
  | none => return none
  | some handle =>
    return if (← attempt (handle.read 1)).isSome then some .file else some .directory

def readFile (path : String) : IO (Option Bytes) := do
  return (← attempt (IO.FS.readBinFile path)).map (·.toList)

def candidates (words : List String) : List String :=
  words ++ words.map fun word => String.ofList ((word.toList.dropWhile (· ≠ '=')).drop 1)

def neededFiles (settings : Settings) : List String :=
  match settings.command with
  | .index _ _ _ _ file => [settings.databasePath, file]
  | _ => [settings.databasePath]

def lookUp {α : Type} (table : List (String × Option α)) (path : String) : Option α :=
  ((table.find? fun e => e.1 = path).map (·.2)).join

/-- Answers a command line. A scan takes place at once, as far as its timeout is concerned. -/
def answer (words : List String) : IO Run := do
  let kinds ← (candidates words).mapM fun path => return (path, ← pathKind path)
  match parse (lookUp kinds) words with
  | .error e => return .ofUsageError e
  | .ok settings =>
    let logs := settings.pathTo Settings.logsName
    let kinds := (logs, ← pathKind logs) :: kinds
    let files ← (neededFiles settings).mapM fun path => return (path, ← readFile path)
    if settings.logToFile then
      let _ ← attempt (IO.FS.createDirAll logs)
    let now ← Std.Time.Timestamp.now
    return .ofSettings
      ⟨lookUp kinds, lookUp files, Int64.ofInt now.toMillisecondsSinceUnixEpoch.val, .still⟩
      settings

end MailIndex.CommandLine

def main (words : List String) : IO UInt32 := do
  let run ← MailIndex.CommandLine.answer words
  if let some (path, index) := run.index then
    IO.FS.writeBinFile path ⟨index.toImage.toArray⟩
  IO.print run.output
  if let some e := run.error then
    -- all patterns of a search are made of escapes, so only their size can be wrong
    IO.eprintln (e.message fun _ => MailIndex.Regex.Shape.tooLarge)
  return run.exitCode
