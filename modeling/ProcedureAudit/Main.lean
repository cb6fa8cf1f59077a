import ProcedureAudit.CommandLine.Run

/-!
# The program

The program works on the files below the directory that it is started in; links among them are
left out.  It reads them and the environment, decides what to do and what to print, and prints
it.  No server can be reached from here, so that every attempt to connect fails.
-/

namespace ProcedureAudit

/-- The variables that settings are read from. -/
def settingNames : List String :=
  [ "DATABASE_URL", "SOURCE_ROOT", "CALLER_FILE", "IGNORE_FILE", "SOURCE_PATTERNS", "RECORD_COUNT",
    "LOG_LEVEL", "NODE_ENV" ]

/-- The variables that are set, with their values. -/
def readEnvironment : IO Environment :=
  settingNames.filterMapM fun name => do
    let value ← IO.getEnv name
    return value.map fun value => (name.toList, value.toList)

/-- A server that cannot be reached. -/
def unreachableServer : Server where
  connecting _ :=
    some
      (Fault.ofName "OperationalError"
        [.value (.integer 2003), .value (.text "No server can be reached")])
  answering _ _ := .ok {}

/-- Values for fixture records, which are all alike as no record is ever created. -/
def constantSources : Fixture.Sources where
  octets _ count := List.replicate count 0
  below _ _ := 0
  seconds _ := Binary64.ofInt 0

/-- Read a file; one that cannot be read has no content. -/
def readOctets (path : String) : IO (List UInt8) := do
  try
    return (← IO.FS.readBinFile path).toList
  catch _ =>
    return []

/-- Read what an entry of a directory is; one that is neither a directory nor a file is none. -/
partial def readEntry (entry : IO.FS.DirEntry) : IO (Option (Text × Node)) := do
  let name := entry.fileName.toList
  match (← entry.path.symlinkMetadata).type with
  | .dir =>
    let entries ←
      try
        entry.path.readDir
      catch _ =>
        pure #[]
    return some (name, .directory (← entries.toList.filterMapM readEntry))
  | .file => return some (name, .file (← readOctets entry.path.toString))
  | _ => return none

/-- Read the files below the current directory. -/
def readWorkspace : IO Workspace := do
  let place ← IO.currentDir
  let entries ← (← place.readDir).toList.filterMapM readEntry
  let current := (FilePath.parse place.toString.toList).steps
  return { top := Node.place (.directory entries) current Node.emptyDirectory, current }

/-- What the program works with. -/
def readSurroundings : IO Surroundings := do
  return {
    workspace := ← readWorkspace
    environment := ← readEnvironment
    server := unreachableServer
    sources := constantSources
  }

end ProcedureAudit

/-- Do what the arguments ask for. -/
def main (arguments : List String) : IO UInt32 := do
  let surroundings ← ProcedureAudit.readSurroundings
  let conclusion := ProcedureAudit.CommandLine.run surroundings (arguments.map String.toList)
  for notice in conclusion.notices do
    IO.eprintln (String.ofList notice)
  IO.eprint (String.ofList conclusion.printed.err)
  IO.print (String.ofList conclusion.printed.out)
  return UInt32.ofNat conclusion.status
