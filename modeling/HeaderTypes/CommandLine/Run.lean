import HeaderTypes.CommandLine.Arguments
import HeaderTypes.CommandLine.Clock
import HeaderTypes.Log.Root
import HeaderTypes.Manifest
import HeaderTypes.Publish
import HeaderTypes.Scan

namespace HeaderTypes.CommandLine

/-- What a run takes from the world around it: how YAML is read, the setting
for syntax diagnostics, how syntax errors are counted when they are, a name for
a run without one, the time for log lines and for the report, and how many
milliseconds a scan takes. -/
structure Surroundings where
  yaml : Document.Yaml.Reader
  setting : Option String
  check : SyntaxCheck
  freshId : String
  time : String
  now : String
  scanTime : Nat

/-- Why a run has failed. -/
inductive Fault
  /-- The flag for a manifest has no path. -/
  | noManifest
  | load (fault : Manifest.LoadFault)
  | graph (failure : Failure)
  | publish (fault : Files.Fault)
  deriving DecidableEq, Repr

def Fault.message : Fault → String
  | noManifest => "expected str, bytes or os.PathLike object, not list"
  | load fault => fault.message
  | graph failure => failure.message
  | publish fault => fault.message

/-- The words that introduce a fault in the log. Faults without any are not
expected and go to the caller. -/
def Fault.heading? : Fault → Option String
  | noManifest => none
  | load (.notFound _) => some "File error"
  | load (.refused _) => none
  | load (.undecodable _) => some "Cannot read header"
  | load (.json fault) => if fault.isDepth then none else some "Invalid manifest"
  | load (.yaml fault) => if fault.isUnfitValue then some "Invalid manifest" else none
  | load (.invalid _) => some "Invalid manifest"
  | graph (.headerNotFound _) => some "File error"
  | graph (.undecodable _) => some "Cannot read header"
  | graph failure => if failure.isGraphFailure then some "Scan failed" else none
  | publish ⟨.notFound, _⟩ => some "File error"
  | publish ⟨.nullCharacter, _⟩ | publish ⟨.halves _, _⟩ => some "Invalid manifest"
  | publish _ => none

/-- How far a run has come: the files as they are, the scopes that are open,
and the records so far. -/
structure Session where
  files : Files.Tree
  scopes : Log.Scopes
  time : String
  records : List Log.Stamped

/-- A part of a run. -/
abbrev Run := ExceptT Fault (StateM Session)

/-- Adds records that are made here and now. -/
def record (records : List Log.Record) : Run Unit :=
  modify fun session => { session with
    records := session.records ++
      records.map fun r => ⟨r, session.scopes.context, session.time, {}⟩ }

/-- Adds a record of the run itself. -/
def tell (level : Log.Level) (message : String) : Run Unit := record [⟨level, "run_scan", message⟩]

/-- A part of a run inside a scope, which is left even if the part fails. -/
def within {α : Type} (kind : Log.ScopeKind) (value : String) (part : Run α) : Run α :=
  ExceptT.mk do
    modify fun session => { session with scopes := session.scopes.enter kind (.text value) }
    let result ← part.run
    modify fun session => { session with scopes := session.scopes.leave }
    return result

/-- An operation on a scan as a part of a run. -/
def onScan {α : Type} (action : Action Scan α) (scan : Scan) : Run (α × Scan) := do
  let outcome := action.run scan
  record (outcome.events.map (·.record))
  match outcome.result with
  | .ok a => return (a, outcome.state)
  | .error failure => throw (.graph failure)

/-- Publishes something as a part of a run. -/
def publishing (attempt : Files.Tree → Publish.Attempt) : Run Unit := do
  let (files, fault) := attempt (← get).files
  modify fun session => { session with files }
  if let some fault := fault then throw (.publish fault)

/-- Scans the headers of a manifest in order. -/
def takeHeaders (manifest : Manifest) (directory : Files.Path) :
    List Text.Loose → Scan → Run Scan
  | [], scan => return scan
  | header :: headers, scan => do
    let files := (← get).files
    let (_, scan) ← within .header header.text <|
      onScan (Scan.takeFile files (manifest.resolve directory header).text) scan
    takeHeaders manifest directory headers scan

/-- What a run reports of a scan. -/
def report (manifest : Manifest) (output : Text.Loose) (scanTime : Nat) (stats : Stats) :
    List (Document.Scalar × Document.Value) :=
  [(.text "status", .text "success"),
    (.text "headers", .list (manifest.headers.map fun header => .scalar (.text header))),
    (.text "output_file", .scalar (.text output)),
    (.text "scan_seconds", .float (Float.ofNat scanTime / 1000.0)), (.text "stats", stats.value)]

/-- Scans the headers of a manifest and writes their model: what was counted. -/
def followManifest (surroundings : Surroundings) (manifest : Manifest) (directory : Files.Path)
    (output : Text.Loose) : Run Stats := do
  let scan : Scan :=
    { tags := manifest.tags
      check := if manifest.syntaxDiagnostics then surroundings.check else .off }
  let (_, scan) ← within .phase "seed" <|
    onScan (Scan.insertPrimitives (manifest.primitives.getD pluginPrimitives)) scan
  let scan ← within .phase "scan" <| takeHeaders manifest directory manifest.headers scan
  let (_, scan) ← within .phase "export" do
    let (model, scan) ← onScan Scan.finish scan
    publishing (Publish.model model.value output)
    return ((), scan)
  let files := (← get).files
  tell .info s!"Scan completed in {seconds surroundings.scanTime}s: {scan.stats.render}"
  tell .info s!"Wrote model to {(files.absolute output).text.text}"
  return scan.stats

/-- The directory of a manifest, from the root down. -/
def manifestDirectory (files : Files.Tree) (path : String) : Files.Path :=
  { (files.absolute path).parent with anchor := .root }

/-- The name of a run, which is a new one unless it is told. -/
def runName (surroundings : Surroundings) (settings : Settings) : String :=
  (settings.runId.filter (· ≠ "")).getD surroundings.freshId

/-- A run from its manifest to its report. -/
def perform (surroundings : Surroundings) (settings : Settings) : Run Unit := do
  let session ← get
  let some path := settings.manifest | throw .noManifest
  match Manifest.load surroundings.yaml session.files surroundings.setting path with
  | .error fault => throw (.load fault)
  | .ok manifest =>
    let output : Text.Loose := match settings.outputFile with
      | some path => if path = "" then manifest.outputFile else path
      | none => manifest.outputFile
    let directory := manifestDirectory session.files path
    let stats ← followManifest surroundings manifest directory output
    let runId := runName surroundings settings
    publishing (Publish.report (report manifest output surroundings.scanTime stats) runId
      surroundings.now manifest.reportDirectory)
    tell .info s!"Run report: {(Publish.reportPath manifest.reportDirectory runId).text}"

/-- How a run ends: with an exit code, or with a fault that is not expected. -/
inductive Ending
  | exit (code : Nat)
  | fault (fault : Fault)
  deriving DecidableEq, Repr

/-- `perform`, with an error in the log for each fault that is expected. -/
def guarded (surroundings : Surroundings) (settings : Settings) : StateM Session Ending := do
  match ← (perform surroundings settings).run with
  | .ok _ => return .exit 0
  | .error fault =>
    match fault.heading? with
    | some heading =>
      let _ ← (tell .error s!"{heading}: {fault.message}").run
      return .exit 1
    | none => return .fault fault

/-- What a command line leaves behind. -/
structure Outcome where
  ending : Ending
  files : Files.Tree
  root : Log.Root
  records : List Log.Stamped

/-- Runs a command line. The log is set up for it first. -/
def run (surroundings : Surroundings) (args : List String) (files : Files.Tree)
    (root : Log.Root) : Outcome :=
  match Request.ofArguments args with
  | .help => ⟨.exit 0, files, root, []⟩
  | .misuse => ⟨.exit 2, files, root, []⟩
  | .run settings =>
    let level := if settings.verbose then Log.Level.debug else .info
    let root := (root.configure level Log.contextTemplate).2
    let context : Log.Context := { runId := .text (runName surroundings settings) }
    let (ending, session) :=
      (guarded surroundings settings).run ⟨files, ⟨context, []⟩, surroundings.time, []⟩
    ⟨ending, session.files, root, session.records⟩

/-- The lines that the handlers wrote. -/
def Outcome.lines (outcome : Outcome) : List String :=
  outcome.records.flatMap fun stamped =>
    (outcome.root.emit stamped).filterMap fun (_, line) => line.bind Except.toOption

end HeaderTypes.CommandLine
