import HeaderTypes.Proofs.CommandLine.Ending

namespace HeaderTypes.CommandLine
open Document Scan
open Files (Tree)

/-- The model that is in the files after a run that failed. Halves of surrogate
pairs end it too early, or it is whole and there is no report of it. -/
inductive LeavesModel (surroundings : Surroundings) (settings : Settings) (manifest : Manifest)
    (scan : Scan) (model : Model) (files left : Tree) : Prop
  | broken {text halves} : Json.writable Json.modelLayout model.value = (text, some halves) →
      files.WritesFile left (settings.output manifest) (Publish.bytes text) →
      LeavesModel surroundings settings manifest scan model files left
  | unreported {written fault} :
      files.WritesFile written (settings.output manifest)
        (Publish.bytes (Json.render Json.modelLayout model.value ++ "\n")) →
      Publish.report
          (report manifest (settings.output manifest) surroundings.scanTime scan.stats)
          (runName surroundings settings) surroundings.now manifest.reportDirectory written =
        (left, some fault) →
      (Fault.publish fault).IsForeseen → written.AddsDirectories left →
      LeavesModel surroundings settings manifest scan model files left

section
variable {surroundings : Surroundings} {settings : Settings} {session after : Session}

/-- When a run fails, no file has changed, or it went through all headers of
its manifest and has left their model. -/
theorem perform_failed {fault : Fault} (foreseen : fault.IsForeseen)
    (ends : Ends (perform surroundings settings) session (.error fault) after) :
    session.files.AddsDirectories after.files ∨
      ∃ path manifest scan model, settings.manifest = some path ∧
        Manifest.load surroundings.yaml session.files surroundings.setting path = .ok manifest ∧
        (manifest.takeAll (manifestDirectory session.files path) session.files).Ends
          (manifest.fresh surroundings.check) (.ok scan.stats) scan ∧
        finish.Ends scan (.ok model) scan.closed ∧
        LeavesModel surroundings settings manifest scan model session.files after.files := by
  cases named : settings.manifest with
  | none =>
    obtain ⟨_, rfl⟩ := ends.unique (perform_of_unnamed named)
    exact Or.inl (.refl _)
  | some path =>
    cases loaded : Manifest.load surroundings.yaml session.files surroundings.setting path with
    | error cause =>
      obtain ⟨_, rfl⟩ := ends.unique (perform_of_unread named loaded)
      exact Or.inl (.refl _)
    | ok manifest =>
      obtain ⟨_, _, _, _, files⟩ | ⟨scan, took, reach, outcome⟩ :=
        followManifest_report_failed ((perform_of_loaded named loaded).mp ends)
      · exact Or.inl (files ▸ .refl _)
      · let model := scan.registry.shown
        have written := Publish.model_cases model.value (settings.output manifest) session.files
        obtain ⟨cause, published, _⟩ | ⟨none, cause, reported, rfl⟩ := outcome
        · rw [published] at written
          obtain ⟨_, _, adds⟩ | ⟨none, _⟩ | ⟨text, halves, broken, _, writes⟩ := written
          · exact Or.inl adds
          · cases none
          · refine Or.inr ⟨path, manifest, scan, model, rfl, loaded, took, finish_ends_of_reach reach, ?_⟩
            exact .broken broken writes
        · obtain ⟨_, some, _⟩ | ⟨_, writes⟩ | ⟨_, _, _, some, _⟩ := written
          · cases none.symm.trans some
          · have adds := Publish.report_refused (congrArg Prod.snd reported)
            rw [reported] at adds
            refine Or.inr ⟨path, manifest, scan, model, rfl, loaded, took, finish_ends_of_reach reach, ?_⟩
            exact .unreported writes reported foreseen adds
          · cases none.symm.trans some

end

theorem run_files_of_asked {args : List String} {settings : Settings}
    (asked : Request.ofArguments args = .run settings) (surroundings : Surroundings)
    (files : Tree) (root : Log.Root) :
    (run surroundings args files root).files =
      ((guarded surroundings settings).run (opening surroundings settings files)).2.files := by
  simp only [run, asked, opening]
  generalize (guarded surroundings settings).run _ = ended
  rfl

/-- A run that ends with exit code 1 has changed no file, unless it went through
all headers of its manifest. Then the model is left behind, without a report. -/
theorem run_exit_one {surroundings : Surroundings} {args : List String} {files : Tree}
    {root : Log.Root} (failed : (run surroundings args files root).ending = .exit 1) :
    let left := (run surroundings args files root).files
    files.AddsDirectories left ∨
      ∃ settings path manifest scan model, Request.ofArguments args = .run settings ∧
        settings.manifest = some path ∧
        Manifest.load surroundings.yaml files surroundings.setting path = .ok manifest ∧
        (manifest.takeAll (manifestDirectory files path) files).Ends
          (manifest.fresh surroundings.check) (.ok scan.stats) scan ∧
        finish.Ends scan (.ok model) scan.closed ∧
        LeavesModel surroundings settings manifest scan model files left := by
  intro left
  cases asked : Request.ofArguments args with
  | help => simp [run, asked] at failed
  | misuse => simp [run, asked] at failed
  | run settings =>
    obtain ⟨ended, _⟩ := run_of_asked asked surroundings files root
    have kept : left = _ := run_files_of_asked asked surroundings files root
    obtain ⟨result, after, ends⟩ :=
      Ends.exists (perform surroundings settings) (opening surroundings settings files)
    rw [ended] at failed
    cases result with
    | ok _ =>
      rw [guarded_of_ok ends] at failed
      cases failed
    | error fault =>
      cases told : fault.heading? with
      | none =>
        rw [guarded_of_no_heading told ends] at failed
        cases failed
      | some heading =>
        have foreseen : fault.IsForeseen := by rw [Fault.IsForeseen, told]; rfl
        rw [guarded_of_heading told ends] at kept
        rw [kept]
        refine (perform_failed foreseen ends).imp_right ?_
        rintro ⟨path, manifest, scan, model, rest⟩
        exact ⟨settings, path, manifest, scan, model, rfl, rest⟩

/-- A run that asks for a report in a directory that is not there. -/
def strayArguments : List String := ["--manifest", "m.json", "--run-id", "a/b"]

def strayFiles : Tree :=
  (filesWith "m.json" manifestText).withFile "a.h"
    (Publish.bytes "typedef struct { uint32_t x; } a_t;\n")

def strayRun : Outcome := run someSurroundings strayArguments strayFiles ⟨[], .warning⟩

theorem strayRun_outcome :
    strayRun.ending = .exit 1 ∧ (strayRun.files.file? "model.json").isSome := by
  decide +kernel

theorem run_exit_one_strayRun :
    strayRun.ending = .exit 1 ∧
      (strayFiles.AddsDirectories strayRun.files ∨
        ∃ settings path manifest scan model, Request.ofArguments strayArguments = .run settings ∧
          settings.manifest = some path ∧
          Manifest.load Document.Yaml.read strayFiles none path = .ok manifest ∧
          (manifest.takeAll (manifestDirectory strayFiles path) strayFiles).Ends
            (manifest.fresh .off) (.ok scan.stats) scan ∧
          finish.Ends scan (.ok model) scan.closed ∧
          LeavesModel someSurroundings settings manifest scan model strayFiles strayRun.files) :=
  ⟨strayRun_outcome.1, run_exit_one strayRun_outcome.1⟩

/-- The run fails and leaves its model behind. -/
theorem strayRun_leaves_model :
    strayRun.ending = .exit 1 ∧ strayFiles.file? "model.json" = none ∧
      (strayRun.files.file? "model.json").isSome :=
  ⟨strayRun_outcome.1, by decide +kernel, strayRun_outcome.2⟩

end HeaderTypes.CommandLine
