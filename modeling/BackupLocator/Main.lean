import BackupLocator.CommandLine.Survey

/-!
# The program

The outer layer of the command line. It looks at the storage that the words and the configuration
name, runs the command on what it saw, makes the directories that the run has made, and prints.
-/

namespace BackupLocator.Main

/-- What stands at a place of the storage. Links are followed. -/
def look (loc : Location) : IO (Option Entry) := do
  let path := "/" ++ "/".intercalate loc.reverse
  try
    let handle ← IO.FS.Handle.mk path .read
    return some (.file (← handle.readBinToEnd).toList)
  catch
    | .inappropriateType _ code _ => return if code = 21 then some .directory else none
    | _ => return none

/-- The places on the way to a path. -/
def placesOf (fs : FileSystem) (p : Path) : List Location :=
  let whole := fs.workingDirectory.join p
  let beginnings := (List.range (whole.parts.length + 1)).map whole.parts.take
  (beginnings.map fun parts => Path.settle [] parts).filter (· ≠ [])

/-- The storage with what stands on the way to some paths. -/
def lookAll (fs : FileSystem) (paths : List Path) : IO FileSystem := do
  let mut seen := fs
  for loc in (paths.flatMap (placesOf fs)).eraseDups do
    if (seen.find? loc).isNone then
      if let some entry ← look loc then seen := seen.add loc entry
  return seen

/-- The accounts in a text with an account on each line, its fields between colons. -/
def accountsOf (text : String) : List (String × String) :=
  (Text.pieces '\n' text.toList).filterMap fun line =>
    match Text.pieces ':' line with
    | [name, _, _, _, _, home, _] => some (String.ofList name, String.ofList home)
    | _ => none

/-- The environment of the program. -/
def environment : IO Environment := do
  let names := ["HOME", Config.fileVariable, Config.versionVariable, Config.packageVariable,
    Config.preferenceVariable, Config.placeVariable]
  let mut bindings := []
  for name in names do
    if let some text ← IO.getEnv name then bindings := (name, text) :: bindings
  let accounts ← match ← look ["passwd", "etc"] with
    | some (.file content) => pure (accountsOf (String.ofList (Text.Utf8.decodeLossy content)))
    | _ => pure []
  return ⟨bindings, accounts, "/root"⟩

/-- The storage at the beginning, of which nothing is known but the working directory. -/
def unseen : IO FileSystem := do
  let here ← IO.getEnv "PWD"
  return { FileSystem.empty with workingDirectory := .ofText (here.getD "/") }

/-- The directories that are in `after` and not in `before` are made, parents first. -/
def makeAll (before after : FileSystem) : IO Unit := do
  for (loc, _) in after.entries.reverse do
    if (before.find? loc).isNone then
      IO.FS.createDir ("/" ++ "/".intercalate loc.reverse)

/-- How the program is to be called. -/
def usageText : String :=
  "Usage: backupdir [--config FILE] [--platform-version N] [--package-id ID] [--verbose] " ++
    "resolve|display|volumes|check ...\n"

/-- The end of a run is printed. -/
def print (outcome : CommandLine.Outcome) : IO UInt32 := do
  match outcome with
  | .usage => IO.eprint usageText
  | .help => IO.print usageText
  | .crashed e => IO.eprintln (e.message?.getD "The input cannot be used.")
  | .finished r =>
    IO.eprint r.errors
    IO.print r.screen.toText
  return UInt32.ofNat outcome.exitCode

end BackupLocator.Main

open BackupLocator in
/-- The command line. -/
def main (words : List String) : IO UInt32 := do
  let env ← Main.environment
  let mut files ← Main.unseen
  if let .ok i := CommandLine.readInvocation words then
    if let some file := Config.namedFile env i.file then
      files ← Main.lookAll files [.ofText file]
    files ← Main.lookAll files (CommandLine.surveyOf env files i)
  let (outcome, after) := CommandLine.run env files words
  Main.makeAll files after
  Main.print outcome
