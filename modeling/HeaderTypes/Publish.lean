import HeaderTypes.Document.Json.Halves
import HeaderTypes.Document.Model
import HeaderTypes.Files.Tree

namespace HeaderTypes.Publish
open Document
open Text (Loose)

def bytes (text : String) : List UInt8 := text.toUTF8.toList

/-- The files after an attempt to publish something, and what it failed for. -/
abbrev Attempt := Files.Tree × Option Files.Fault

/-- Writes a file, if nothing has failed before. -/
def Attempt.write (attempt : Attempt) (path : Loose) (content : String) : Attempt :=
  match attempt with
  | (files, some fault) => (files, some fault)
  | (files, none) =>
    match files.write path (bytes content) with
    | .ok files => (files, none)
    | .error fault => (files, some fault)

/-- Writes a model, with the directory that it is in. What stands before halves
that cannot be written is left in the file. -/
def model (model : Value) (path : Loose) (files : Files.Tree) : Attempt :=
  let attempt : Attempt := files.ensureDirectory (files.absolute path).parent.text
  match Json.writable Json.modelLayout model with
  | (text, none) => attempt.write path (text ++ "\n")
  | (text, some fault) =>
    let (files, failure) := attempt.write path text
    (files, failure <|> some ⟨.halves fault, path⟩)

/-- An entry of a report, unless the report has one under that key. -/
def withDefault (key : String) (value : Value) (entries : List (Scalar × Value)) :
    List (Scalar × Value) :=
  if (Value.lookup? key entries).isSome then entries else entries ++ [(.text key, value)]

/-- The path of the report of a run. -/
def reportPath (directory : Loose) (runId : String) : Loose :=
  Files.joinTexts directory (runId ++ ".json" : String)

/-- Writes the report of a run, which tells the name of the run and its time. -/
def report (entries : List (Scalar × Value)) (runId now : String) (directory : Loose)
    (files : Files.Tree) : Attempt :=
  let attempt : Attempt := files.ensureDirectory directory
  let named := withDefault "run_id" (.text runId) entries
  let dated := withDefault "timestamp_utc" (.text now) named
  attempt.write (reportPath directory runId) (Json.render Json.reportLayout (.map dated))

end HeaderTypes.Publish
