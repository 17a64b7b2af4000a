import HeaderTypes.Files.Tree
import HeaderTypes.Header.Block
import HeaderTypes.Header.Diagnosis
import HeaderTypes.Model
import HeaderTypes.Registry.Compatibility
import HeaderTypes.Registry.Fields
import HeaderTypes.Registry.Primitives

namespace HeaderTypes

/-- A registry that is filled from headers in the order of their dependencies. -/
structure Scan where
  registry : Registry := {}
  tags : Registry.Tags := none
  check : SyntaxCheck := .off
  stats : Stats := {}
  /-- A header has been scanned, after which no primitive is accepted. -/
  started : Bool := false

namespace Scan

/-- An operation on the registry alone. -/
def onRegistry {α : Type} (action : Action Registry α) : Action Scan α :=
  action.onPart (·.registry) fun scan registry => { scan with registry }

/-- Changes the counters. -/
def count (change : Stats → Stats) : Action Scan Unit :=
  .update fun scan => { scan with stats := change scan.stats }

/-- Registers a primitive, before the first header. -/
def insertPrimitive (name : Text.Loose) (compatible : Bool) : Action Scan Bool := do
  let scan ← Action.get
  if scan.started then Action.refuse (.latePrimitive name.text)
  else onRegistry (Registry.insertPrimitive name compatible)

/-- Registers primitives, before the first header. -/
def insertPrimitives (primitives : List (Text.Loose × Bool)) : Action Scan Nat := do
  let scan ← Action.get
  if scan.started then Action.refuse .latePrimitives
  else onRegistry (Registry.insertPrimitives primitives)

/-- The number of fields whose type is a signature. -/
def signatureCount (r : Registry) : List Field → Except Failure Nat
  | [] => .ok 0
  | field :: fields => do
    let type ← r.entry field.type
    let more ← signatureCount r fields
    return (if type.isSignature then 1 else 0) + more

/-- Registers the struct of a block with the signatures it needs, and counts
them, unless its name is taken already. Says whether it did. -/
def takeBlock (origin : String) (block : StructBlock) : Action Scan Bool := do
  Action.tell (.blockFound block.name block.line)
  let scan ← Action.get
  if scan.registry.contains block.name then
    Action.tell (.structSkipped block.name origin block.line)
    count fun stats => { stats with structsSkipped := stats.structsSkipped + 1 }
    return false
  else
    let fields ← onRegistry (Registry.addFields scan.tags block.name block.body)
    let struct ← onRegistry (Registry.addStruct block.name fields)
    count fun stats => { stats with
      structsRegistered := stats.structsRegistered + 1
      structsCompatible := stats.structsCompatible + if struct.compatible then 1 else 0 }
    let scan ← Action.get
    let signatures ← Action.ofExcept (signatureCount scan.registry fields)
    count fun stats => { stats with
      signaturesRegistered := stats.signaturesRegistered + signatures }
    return true

/-- Takes what was found in a header, in order, and names the structs that are new. -/
def takeFindings (origin : String) : List Finding → Action Scan (List String)
  | [] => return []
  | .forward line :: findings => do
    Action.tell (.forwardSkipped line)
    takeFindings origin findings
  | .malformed block :: _ => Action.refuse (.malformedBlock block)
  | .block block :: findings => do
    let added ← takeBlock origin block
    let names ← takeFindings origin findings
    return if added then block.name :: names else names

/-- Scans the text of a header and names the structs that are new. -/
def takeHeader (text origin : String) : Action Scan (List String) := do
  let scan ← Action.get
  if scan.registry.frozen then Action.refuse (.lateHeader origin)
  else
    Action.update fun scan => { scan with started := true }
    let names ← (takeFindings origin (Header.findings text)).tellingRefusal fun cause =>
      if cause.isGraphFailure then [.scanFailed origin cause] else []
    count fun stats => { stats with headersScanned := stats.headersScanned + 1 }
    Action.tell (.headerScanned origin names.length)
    return names

/-- The number of syntax errors in a header, if they are looked for. -/
def errorCount (text : String) : Action Scan Nat := do
  let scan ← Action.get
  match scan.check with
  | .off => return 0
  | .grammar grammar =>
    Action.tell .grammarReady
    Action.tell (.textParsed text.utf8ByteSize)
    return grammar.errorCount text
  | .counted [] => return 0
  | .counted (first :: counts) =>
    Action.update fun scan => { scan with check := .counted counts }
    return first

/-- Scans a file with UTF-8 text. -/
def takeFile (files : Files.Tree) (path : Text.Loose) : Action Scan (List String) := do
  match files.file? path with
  | none => Action.refuse (.headerNotFound path.text)
  | some content =>
    match Text.decodeUtf8 content with
    | .error fault => Action.refuse (.undecodable fault)
    | .ok cs =>
      let text := String.ofList (Text.unifyNewlines cs)
      let errors ← errorCount text
      if errors ≠ 0 then Action.tell (.syntaxErrorsFound path.text errors)
      count fun stats => { stats with syntaxErrors := stats.syntaxErrors + errors }
      takeHeader text path.text

/-- Scans files in order. -/
def takeFiles (files : Files.Tree) : List Text.Loose → Action Scan Unit
  | [] => return ()
  | path :: paths => do
    let _ ← takeFile files path
    takeFiles files paths

/-- Ends all registration and gives the structs in the order of registration. -/
def close : Action Scan (List Descriptor) := onRegistry Registry.close

/-- Ends all registration and gives the model. -/
def finish : Action Scan Model := do
  let _ ← close
  let scan ← Action.get
  Action.ofExcept scan.registry.model

/-- Registers primitives, scans files in order and gives what was counted. -/
def takeAll (primitives : List (Text.Loose × Bool)) (files : Files.Tree)
    (paths : List Text.Loose) : Action Scan Stats := do
  let _ ← insertPrimitives primitives
  takeFiles files paths
  let scan ← Action.get
  Action.tell (.scanCompleted scan.stats)
  return scan.stats

end Scan

end HeaderTypes
