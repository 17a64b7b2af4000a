import HeaderTypes.CommandLine.Run
import HeaderTypes.Document.Yaml.Reader
import HeaderTypes.Text.Hex
import Std.Time.DateTime.Timestamp

namespace HeaderTypes.CommandLine

def usage : String :=
  "usage: header-types [--help] --manifest FILE [--output-file FILE] [--run-id ID] [--verbose]"

/-- The content of a file, if it can be read. -/
def content? (path : String) : IO (Option (List UInt8)) := do
  try return some (← IO.FS.readBinFile path).toList
  catch _ => return none

/-- Adds a file to what is known of the files, if it can be read. -/
def lookAt (files : Files.Tree) (path : String) : IO Files.Tree := do
  match ← content? path with
  | some content => return files.withFile path content
  | none => return files

/-- The files that a run will ask for: its manifest and the headers named there. -/
def gather (setting : Option String) (path : String) : IO Files.Tree := do
  let workingDirectory := Files.Tree.steps ((← IO.getEnv "PWD").getD "/")
  let files ← lookAt (.withoutFiles workingDirectory) path
  match Manifest.load Document.Yaml.read files setting path with
  | .error _ => return files
  | .ok manifest =>
    let directory := manifestDirectory files path
    let paths := manifest.headers.map fun header =>
      Text.pathText (manifest.resolve directory header).text
    paths.foldlM lookAt files

/-- Writes the files that are not as they were. -/
def store (before after : Files.Tree) : IO Unit := do
  for (route, node) in after.nodes do
    if before.node? route ≠ some node then
      let path := "/" ++ "/".intercalate route
      match node with
      | .directory => IO.FS.createDirAll path
      | .file content => IO.FS.writeBinFile path ⟨content.toArray⟩

/-- A name that no other run has. -/
def freshId : IO String := do
  let bytes ← IO.getRandomBytes 16
  return String.ofList (bytes.toList.flatMap fun byte => Text.hex 2 byte.toNat)

def now : IO Moment := do
  let stamp ← Std.Time.Timestamp.now
  return ⟨stamp.toNanosecondsSinceUnixEpoch.val.toNat / 1000⟩

/-- Runs a command line on the files that are there. The run is done once more
when it is known how long it takes. -/
def runHere (args : List String) (settings : Settings) : IO UInt32 := do
  let setting ← IO.getEnv "TYPEGRAPH_SYNTAX_DIAGNOSTICS"
  let files ← gather setting (settings.manifest.getD "")
  let moment ← now
  let surroundings : Surroundings :=
    ⟨Document.Yaml.read, setting, .grammar .trusting, ← freshId, moment.logText, moment.reportText,
      0⟩
  let begun ← IO.monoMsNow
  let _ ← IO.lazyPure fun _ => run surroundings args files ⟨[], .warning⟩
  let ended ← IO.monoMsNow
  let outcome := run { surroundings with scanTime := ended - begun } args files ⟨[], .warning⟩
  store files outcome.files
  for line in outcome.lines do IO.eprintln line
  match outcome.ending with
  | .exit code => return code.toUInt32
  | .fault fault =>
    IO.eprintln fault.message
    return 1

/-- Does what a list of arguments asks for and gives the exit code. -/
def start (args : List String) : IO UInt32 := do
  match Request.ofArguments args with
  | .run settings => runHere args settings
  | .help =>
    IO.println usage
    return 0
  | .misuse =>
    IO.eprintln usage
    return 2

end HeaderTypes.CommandLine

def main (args : List String) : IO UInt32 := HeaderTypes.CommandLine.start args
