import HeaderTypes.Document.Json.Reader
import HeaderTypes.Document.Yaml.Fault
import HeaderTypes.Files.Tree
import HeaderTypes.Text.Utf8

namespace HeaderTypes
open Text (Loose)

/-- What to scan and where to write: the headers in the order of their
dependencies, the directory they are in, the primitives to start from if not
the usual ones, the calling conventions to accept if not all, the file of the
model, the directory of reports, and whether syntax errors are looked for. -/
structure Manifest where
  headers : List Loose
  includeRoot : Loose
  primitives : Option (List (Loose × Bool))
  conventions : Option (List Loose)
  outputFile : Loose
  reportDirectory : Loose
  syntaxDiagnostics : Bool
  deriving DecidableEq, Repr

/-- The calling conventions as they stand in headers, which are of characters alone. -/
def Manifest.tags (manifest : Manifest) : Option (List String) :=
  manifest.conventions.map (List.map (·.text))

/-- What a manifest does not say as it should. -/
inductive ManifestFault
  | noMap (part : String)
  | noList (part : String)
  | noHeaders
  | blankHeader
  | repeatedHeader (header : Loose)
  | namelessPrimitive
  | unclearPrimitive (name : Loose)
  | repeatedPrimitive (name : Loose)
  | blankTags
  /-- A number of more digits than are written stands where a text belongs. -/
  | longNumber
  deriving DecidableEq, Repr

def ManifestFault.message : ManifestFault → String
  | noMap part => s!"{part} must be an object"
  | noList part => s!"{part} must be a list"
  | noHeaders => "headers must be a non-empty list"
  | blankHeader => "headers contains empty path"
  | repeatedHeader header => s!"Duplicate header in manifest: {header.text}"
  | namelessPrimitive => "primitive.name is required"
  | unclearPrimitive name => s!"primitive '{name.text}': compatible must be true or false"
  | repeatedPrimitive name => s!"Duplicate primitive in manifest: {name.text}"
  | blankTags => "abi_tags must be a non-empty list of names"
  | longNumber => Decimal.tooLongMessage

namespace Manifest
open Document

abbrev Read := Except ManifestFault

def expectMap (part : String) (value : Part) : Read (List (Atom × Part)) :=
  match value.entries? with
  | some entries => .ok entries
  | none => .error (.noMap part)

def expectList (part : String) (value : Part) : Read (List Part) :=
  match value.items? with
  | some items => .ok items
  | none => .error (.noList part)

/-- The text of a part. -/
def readText (part : Part) : Read Loose :=
  match part.text? with
  | some text => .ok text
  | none => .error .longNumber

/-- The text of a part without the blanks at either end. -/
def readTrimmed (part : Part) : Read Loose := (readText part).map (·.trimmed)

/-- The value of a key, if it has one other than null. -/
def given? (key : String) (entries : List (Atom × Part)) : Option Part :=
  (Part.lookup? key entries).filter (!·.isNull)

/-- Paths that are not blank and differ from those before. -/
def readHeaders (seen : List Loose) : List Part → Read (List Loose)
  | [] => .ok []
  | item :: items => do
    let header ← readTrimmed item
    if header.isEmpty then .error .blankHeader
    else if seen.contains header then .error (.repeatedHeader header)
    else
      let headers ← readHeaders (header :: seen) items
      return header :: headers

/-- The text of the value of a key, or another one without that key. -/
def readTextAt (key byDefault : String) (entries : List (Atom × Part)) : Read Loose :=
  match Part.lookup? key entries with
  | some part => readText part
  | none => .ok byDefault

/-- A map with a name that is not blank and a truth value. -/
def readPrimitive (item : Part) : Read (Loose × Bool) := do
  let entries ← expectMap "primitive entry" item
  let name := (← readTextAt "name" "" entries).trimmed
  if name.isEmpty then .error .namelessPrimitive
  else
    match (Part.lookup? "compatible" entries).bind Part.bool? with
    | some compatible => return (name, compatible)
    | none => .error (.unclearPrimitive name)

/-- Primitives whose names differ from those before. -/
def readPrimitives (seen : List Loose) : List Part → Read (List (Loose × Bool))
  | [] => .ok []
  | item :: items => do
    let first ← readPrimitive item
    if seen.contains first.1 then .error (.repeatedPrimitive first.1)
    else
      let primitives ← readPrimitives (first.1 :: seen) items
      return first :: primitives

/-- Names that are not blank, one at least. -/
def readConventions (items : List Part) : Read (List Loose) := do
  let conventions ← items.mapM readTrimmed
  if conventions.isEmpty || conventions.any (·.isEmpty) then .error .blankTags
  else return conventions

/-- The manifest that a document describes. -/
def ofPart (diagnosticsByDefault : Bool) (document : Part) : Read Manifest := do
  let entries ← expectMap "manifest" document
  let items ← match Part.lookup? "headers" entries with
    | some value => expectList "headers" value
    | none => .error (.noList "headers")
  if items.isEmpty then .error .noHeaders
  else
    let headers ← readHeaders [] items
    let primitives ← (given? "primitives" entries).mapM fun value => do
      readPrimitives [] (← expectList "primitives" value)
    let conventions ← (given? "abi_tags" entries).mapM fun value => do
      readConventions (← expectList "abi_tags" value)
    let includeRoot := (← readTextAt "include_root" "." entries).trimmed
    let outputFile ← readTextAt "output_file" "output/abi_model.json" entries
    let reportDirectory ← readTextAt "report_dir" "output/run_reports" entries
    return {
      headers
      includeRoot := if includeRoot.isEmpty then "." else includeRoot
      primitives
      conventions
      outputFile
      reportDirectory
      syntaxDiagnostics :=
        ((Part.lookup? "syntax_diagnostics" entries).map Part.isSet).getD diagnosticsByDefault }

/-- A setting of the environment is on when it is not there or says so. -/
def isOn : Option String → Bool
  | none => true
  | some setting =>
    ["1", "true", "yes", "on"].contains (String.map Char.toLower (Text.trimmed setting))

/-- The path of a header: in the directory of headers, which is seen from the
directory of the manifest. -/
def resolve (directory : Files.Path) (manifest : Manifest) (header : Loose) : Files.Path :=
  (directory.join (.ofText manifest.includeRoot)).join (.ofText header)

/-- Why a manifest is not there. -/
inductive LoadFault
  | notFound (path : Loose)
  | refused (fault : Files.Fault)
  | undecodable (fault : Text.Utf8Fault)
  | json (fault : Json.Fault)
  | yaml (fault : Yaml.Fault)
  | invalid (fault : ManifestFault)
  deriving DecidableEq, Repr

def LoadFault.message : LoadFault → String
  | notFound path => s!"Manifest file not found: {path.text}"
  | refused fault => fault.message
  | undecodable fault => fault.message
  | json fault => fault.message
  | yaml fault => fault.message
  | invalid fault => fault.message

/-- The document at a path, which is JSON or else YAML by its name. -/
def decode (yaml : Yaml.Reader) (files : Files.Tree) (path : String) :
    Except LoadFault Part := do
  let place := Files.Path.ofText path
  match files.find place.text with
  | .error .nameTooLong => .error (.refused ⟨.nameTooLong, place.text⟩)
  | .error _ | .ok .directory => .error (.notFound place.text)
  | .ok (.file content) =>
    let cs ← (Text.decodeUtf8 content).mapError .undecodable
    let text := Text.unifyNewlines cs
    if String.map Char.toLower place.suffix = ".json" then
      ((Json.read text).map Part.ofValue).mapError .json
    else (yaml text).mapError .yaml

/-- Reads the manifest at a path. -/
def load (yaml : Yaml.Reader) (files : Files.Tree) (setting : Option String) (path : String) :
    Except LoadFault Manifest := do
  (ofPart (isOn setting) (← decode yaml files path)).mapError .invalid

end Manifest

end HeaderTypes
