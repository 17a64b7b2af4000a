import HeaderTypes.Document.Yaml.Reader
import HeaderTypes.Proofs.CommandLine.Pipeline

namespace HeaderTypes
open Text (Loose)

namespace Publish

/-- A file can be put at a path, with the directory that it is in, whatever it is to hold. -/
def Fits (files : Files.Tree) (directory path : Loose) : Prop :=
  ∃ made, files.ensureDirectory directory = (made, none) ∧
    ∀ content, ∃ written, made.write path content = .ok written

end Publish

/-- A run accounts for the fault. A path that is refused, a document that is nested too deep and
one in YAML that is broken in its form are left out. -/
def Manifest.LoadFault.IsForeseen : LoadFault → Prop
  | notFound _ | undecodable _ | invalid _ => True
  | refused _ => False
  | json fault => fault.isDepth = false
  | yaml fault => fault.isUnfitValue

namespace CommandLine
open Scan

def Fault.IsForeseen (fault : Fault) : Prop := fault.heading?.isSome

/-- Where the model of a run goes, which the manifest tells unless another place is asked for. -/
def Settings.output (settings : Settings) (manifest : Manifest) : Loose :=
  match settings.outputFile with
  | some path => if path = "" then manifest.outputFile else path
  | none => manifest.outputFile

section
variable {surroundings : Surroundings} {settings : Settings} {session after : Session}

theorem perform_of_unnamed (unnamed : settings.manifest = none) :
    Ends (perform surroundings settings) session (.error .noManifest) session := by
  rw [perform, ends_get_bind_iff, unnamed]
  exact ends_throw_iff.mpr ⟨rfl, rfl⟩

theorem perform_of_unread {path : String} {cause : Manifest.LoadFault}
    (named : settings.manifest = some path)
    (unread : Manifest.load surroundings.yaml session.files surroundings.setting path =
      .error cause) :
    Ends (perform surroundings settings) session (.error (.load cause)) session := by
  rw [perform, ends_get_bind_iff, named]
  simp only [unread]
  exact ends_throw_iff.mpr ⟨rfl, rfl⟩

theorem perform_of_loaded {path : String} {manifest : Manifest} {result : Except Fault Unit}
    (named : settings.manifest = some path)
    (loaded : Manifest.load surroundings.yaml session.files surroundings.setting path =
      .ok manifest) :
    Ends (perform surroundings settings) session result after ↔
      let output := settings.output manifest
      let runId := runName surroundings settings
      Ends (do
        let stats ← followManifest surroundings manifest
          (manifestDirectory session.files path) output
        publishing (Publish.report (report manifest output surroundings.scanTime stats) runId
          surroundings.now manifest.reportDirectory)
        tell .info s!"Run report: {(Publish.reportPath manifest.reportDirectory runId).text}")
        session result after := by
  rw [perform, ends_get_bind_iff, named]
  simp only [loaded]
  rfl

theorem guarded_of_ok (ends : Ends (perform surroundings settings) session (.ok ()) after) :
    (guarded surroundings settings).run session = (.exit 0, after) := by
  rw [guarded, StateT.run_bind, show (perform surroundings settings).run.run session = _ from ends]
  rfl

theorem guarded_of_heading {fault : Fault} {heading : String} (told : fault.heading? = some heading)
    (ends : Ends (perform surroundings settings) session (.error fault) after) :
    (guarded surroundings settings).run session =
      (.exit 1, after.recording [⟨.error, "run_scan", s!"{heading}: {fault.message}"⟩]) := by
  have failed : (perform surroundings settings).run.run session =
      (pure (.error fault, after) : Id _) := ends
  simp only [guarded, StateT.run_bind, failed, pure_bind, told]
  rfl

theorem guarded_of_no_heading {fault : Fault} (untold : fault.heading? = none)
    (ends : Ends (perform surroundings settings) session (.error fault) after) :
    (guarded surroundings settings).run session = (.fault fault, after) := by
  have failed : (perform surroundings settings).run.run session =
      (pure (.error fault, after) : Id _) := ends
  simp only [guarded, StateT.run_bind, failed, pure_bind, untold]
  rfl

end

def opening (surroundings : Surroundings) (settings : Settings) (files : Files.Tree) : Session :=
  ⟨files, ⟨{ runId := .text (runName surroundings settings) }, []⟩, surroundings.time, []⟩

theorem run_of_asked {args : List String} {settings : Settings}
    (asked : Request.ofArguments args = .run settings) (surroundings : Surroundings)
    (files : Files.Tree) (root : Log.Root) :
    (run surroundings args files root).ending =
        ((guarded surroundings settings).run (opening surroundings settings files)).1 ∧
      (run surroundings args files root).records =
        ((guarded surroundings settings).run (opening surroundings settings files)).2.records := by
  simp only [run, asked, opening]
  generalize (guarded surroundings settings).run _ = ended
  exact ⟨rfl, rfl⟩

def someSurroundings : Surroundings := ⟨Document.Yaml.read, none, .off, "0", "", "", 0⟩

/-- A working directory with a manifest and nothing else. -/
def filesWith (path manifest : String) : Files.Tree :=
  (Files.Tree.withoutFiles ["w"]).withFile path (Publish.bytes manifest)

def manifestText : String :=
  "\x7b\"headers\": [\"a.h\"], \"output_file\": \"model.json\", \"report_dir\": \".\"\x7d"

end CommandLine

end HeaderTypes
