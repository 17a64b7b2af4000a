import HeaderTypes.Proofs.CommandLine.Publishing
import HeaderTypes.Proofs.CommandLine.Steps
import HeaderTypes.Proofs.Document.Model
import HeaderTypes.Proofs.Scan.Counters

namespace HeaderTypes
open Text (Loose)

namespace Scan
open HeaderTypes.Action Registry

section
variable {files : Files.Tree} {paths : List Loose}

/-- Primitives are never refused at first, so only a file can be. -/
theorem takeAll_ends_iff {primitives : List (Loose × Bool)} {tags : Tags} {check : SyntaxCheck}
    {after : Scan} {result : Except Failure Stats} :
    (takeAll primitives files paths).Ends (fresh tags check) result after ↔
      ((takeFiles files paths).Ends (seeded primitives tags check) (.ok ()) after ∧
          .ok after.stats = result) ∨
        ∃ failure, (takeFiles files paths).Ends (seeded primitives tags check) (.error failure) after ∧
          .error failure = result := by
  obtain ⟨count, seeds⟩ := insertPrimitives_ends_seeded primitives tags check
  rw [takeAll, ends_bind_of_ends seeds, ends_bind_iff]
  refine or_congr_left ⟨?_, ?_⟩
  · rintro ⟨_, between, taken, rest⟩
    rw [ends_get_bind_iff, ends_tell_bind_iff, ends_pure_iff] at rest
    obtain ⟨same, rfl⟩ := rest
    exact ⟨taken, same⟩
  · rintro ⟨taken, same⟩
    refine ⟨(), after, taken, ?_⟩
    rw [ends_get_bind_iff, ends_tell_bind_iff, ends_pure_iff]
    exact ⟨same, rfl⟩

theorem takeFiles_ok {initial scan after : Scan} (reach : Reach initial scan)
    (ends : (takeFiles files paths).Ends scan (.ok ()) after) :
    Reach initial after ∧
      after.stats.headersScanned = scan.stats.headersScanned + paths.length := by
  induction paths generalizing scan with
  | nil =>
    obtain ⟨_, rfl⟩ := ends
    exact ⟨reach, rfl⟩
  | cons path paths ih =>
    rcases ends_bind_iff.mp ends with ⟨names, between, taken, rest⟩ | ⟨_, _, value⟩
    · have next : Reach initial between := taken.2 ▸ reach.next (.file files path)
      obtain ⟨reach', counted⟩ := ih next rest
      obtain ⟨_, scanned⟩ := takeFile_counts taken
      refine ⟨reach', ?_⟩
      rw [counted, scanned, List.length_cons]
      exact Nat.succ_add_eq_add_succ ..
    · cases value

end

end Scan

/-- The paths of headers of a manifest that is in a directory. -/
def Manifest.paths (manifest : Manifest) (directory : Files.Path) (headers : List Loose) :
    List Loose :=
  headers.map fun header => (manifest.resolve directory header).text

/-- A scan with the settings of a manifest. -/
def Manifest.fresh (manifest : Manifest) (check : SyntaxCheck) : Scan :=
  Scan.fresh manifest.tags (if manifest.syntaxDiagnostics then check else .off)

/-- Scans the headers of a manifest, with its primitives or with the usual ones. -/
def Manifest.takeAll (manifest : Manifest) (directory : Files.Path) (files : Files.Tree) :
    Action Scan Stats :=
  Scan.takeAll (manifest.primitives.getD pluginPrimitives) files
    (manifest.paths directory manifest.headers)

namespace CommandLine
open Scan

section
variable {session after : Session}

theorem ends_within_onScan {α : Type} {kind : Log.ScopeKind} {value : String}
    {action : Action Scan α} {scan : Scan} {result : Except Fault (α × Scan)}
    (ends : Ends (within kind value (onScan action scan)) session result after) :
    after.files = session.files ∧
      ((∃ a later, action.Ends scan (.ok a) later ∧ .ok (a, later) = result) ∨
        (∃ failure later, action.Ends scan (.error failure) later ∧
          .error (.graph failure) = result)) := by
  obtain ⟨between, inside, rfl⟩ := ends_within_iff.mp ends
  obtain ⟨rfl, outcome⟩ := ends_onScan_iff.mp inside
  exact ⟨rfl, outcome⟩

/-- The headers are scanned like files that are given by their paths, and no
file is changed meanwhile. -/
theorem takeHeaders_ends {manifest : Manifest} {directory : Files.Path} {headers : List Loose}
    {scan : Scan} {result : Except Fault Scan}
    (ends : Ends (takeHeaders manifest directory headers scan) session result after) :
    let taking := takeFiles session.files (manifest.paths directory headers)
    after.files = session.files ∧
      ((∃ later, taking.Ends scan (.ok ()) later ∧ result = .ok later) ∨
        ∃ failure later, taking.Ends scan (.error failure) later ∧
          result = .error (.graph failure)) := by
  induction headers generalizing scan session with
  | nil =>
    obtain ⟨rfl, rfl⟩ := ends_pure_iff.mp ends
    exact ⟨rfl, Or.inl ⟨scan, ⟨rfl, rfl⟩, rfl⟩⟩
  | cons header headers ih =>
    rw [takeHeaders, ends_get_bind_iff] at ends
    rcases ends_bind_iff.mp ends with ⟨⟨names, next⟩, between, first, rest⟩ | ⟨fault, first, rfl⟩
    · obtain ⟨same, ⟨_, later, taken, value⟩ | ⟨_, _, _, value⟩⟩ := ends_within_onScan first
      · cases value
        obtain ⟨same', outcome⟩ := ih rest
        rw [same] at same' outcome
        refine ⟨same', outcome.imp ?_ ?_⟩
        · rintro ⟨last, others, value⟩
          exact ⟨last, taken.bind others, value⟩
        · rintro ⟨failure, last, refused, value⟩
          exact ⟨failure, last, taken.bind refused, value⟩
      · cases value
    · obtain ⟨same, ⟨_, _, _, value⟩ | ⟨failure, later, refused, value⟩⟩ := ends_within_onScan first
      · cases value
      · cases value
        exact ⟨same, Or.inr ⟨failure, later, refused.bind_error, rfl⟩⟩

theorem seed_ends (primitives : List (Loose × Bool)) (tags : Registry.Tags) (check : SyntaxCheck)
    (session : Session) :
    ∃ count after,
      Ends (within .phase "seed" (onScan (insertPrimitives primitives) (fresh tags check))) session
        (.ok (count, seeded primitives tags check)) after ∧
      after.files = session.files := by
  obtain ⟨count, seeds⟩ := insertPrimitives_ends_seeded primitives tags check
  exact ⟨count, _, ends_within_iff.mpr ⟨_, ends_onScan_of_ends seeds _, rfl⟩, rfl⟩

/-- A model is published as a scan shows it. -/
theorem export_ends {tags : Registry.Tags} {check : SyntaxCheck} {scan : Scan}
    (reach : Reach (fresh tags check) scan) {output : Loose} {result : Except Fault (Unit × Scan)}
    (ends : Ends (within .phase "export" do
      let (model, scan) ← onScan Scan.finish scan
      publishing (Publish.model model.value output)
      return ((), scan)) session result after) :
    let attempt := Publish.model scan.registry.shown.value output session.files
    after.files = attempt.1 ∧
      (attempt.2 = none ∧ result = .ok ((), scan.closed) ∨
        ∃ fault, attempt.2 = some fault ∧ result = .error (.publish fault)) := by
  obtain ⟨between, inside, rfl⟩ := ends_within_iff.mp ends
  rw [ends_bind_of_ends (ends_onScan_of_ends (finish_ends_of_reach reach) _)] at inside
  rcases ends_bind_iff.mp inside with ⟨_, published, wrote, last⟩ | ⟨fault, failed, rfl⟩
  · obtain ⟨rfl, rfl⟩ := ends_pure_iff.mp last
    obtain ⟨rfl, ⟨none, _⟩ | ⟨_, _, value⟩⟩ := ends_publishing_iff.mp wrote
    · exact ⟨rfl, Or.inl ⟨none, rfl⟩⟩
    · cases value
  · obtain ⟨rfl, ⟨_, value⟩ | ⟨cause, some, value⟩⟩ := ends_publishing_iff.mp failed
    · cases value
    · cases value
      exact ⟨rfl, Or.inr ⟨cause, some, rfl⟩⟩

/-- A manifest is followed up to a header that is refused, or the model of its
headers is published. -/
theorem followManifest_ends {surroundings : Surroundings} {manifest : Manifest}
    {directory : Files.Path} {output : Loose} {result : Except Fault Stats}
    (ends : Ends (followManifest surroundings manifest directory output) session result after) :
    let taking := (manifest.takeAll directory session.files).Ends (manifest.fresh surroundings.check)
    (∃ failure scan, taking (.error failure) scan ∧ result = .error (.graph failure) ∧
        after.files = session.files) ∨
      ∃ scan, taking (.ok scan.stats) scan ∧ Reach (manifest.fresh surroundings.check) scan ∧
        scan.stats.headersScanned = manifest.headers.length ∧
        let attempt := Publish.model scan.registry.shown.value output session.files
        after.files = attempt.1 ∧
          (attempt.2 = none ∧ result = .ok scan.stats ∨
            ∃ fault, attempt.2 = some fault ∧ result = .error (.publish fault)) := by
  intro taking
  -- primitives are never refused at first, so the run goes on with the headers
  obtain ⟨count, ready, seeds, same⟩ := seed_ends (manifest.primitives.getD pluginPrimitives)
    manifest.tags (if manifest.syntaxDiagnostics then surroundings.check else .off) session
  have scanning := (ends_bind_of_ends seeds).mp ends
  have reach := reach_seeded (manifest.primitives.getD pluginPrimitives)
    manifest.tags (if manifest.syntaxDiagnostics then surroundings.check else .off)
  rcases ends_bind_iff.mp scanning with ⟨scan, scanned, headers, exporting⟩ | ⟨fault, headers, rfl⟩
  · obtain ⟨inside, taken, rfl⟩ := ends_within_iff.mp headers
    obtain ⟨same', ⟨_, took, value⟩ | ⟨_, _, _, value⟩⟩ := takeHeaders_ends taken
    · cases value
      change inside.files = ready.files at same'
      change (takeFiles ready.files _).Ends _ _ _ at took
      rw [same] at same' took
      obtain ⟨reach', scanned⟩ := takeFiles_ok reach took
      have counted : scan.stats.headersScanned = manifest.headers.length := by
        rw [scanned, Manifest.paths, List.length_map]
        exact Nat.zero_add _
      refine Or.inr ⟨scan, takeAll_ends_iff.mpr (Or.inl ⟨took, rfl⟩), reach', counted, ?_⟩
      rw [← same']
      rcases ends_bind_iff.mp exporting with ⟨⟨_, closed⟩, published, exports, rest⟩ |
        ⟨fault, exports, rfl⟩
      · rw [ends_get_bind_iff, ends_tell_bind_iff, ends_tell_bind_iff, ends_pure_iff] at rest
        obtain ⟨rfl, rfl⟩ := rest
        obtain ⟨left, ⟨none, value⟩ | ⟨_, _, value⟩⟩ := export_ends reach' exports
        · cases value
          exact ⟨left, Or.inl ⟨none, rfl⟩⟩
        · cases value
      · obtain ⟨left, ⟨_, value⟩ | ⟨cause, some, value⟩⟩ := export_ends reach' exports
        · cases value
        · cases value
          exact ⟨left, Or.inr ⟨cause, some, rfl⟩⟩
    · cases value
  · obtain ⟨inside, taken, rfl⟩ := ends_within_iff.mp headers
    obtain ⟨same', ⟨_, _, value⟩ | ⟨failure, later, refused, value⟩⟩ := takeHeaders_ends taken
    · cases value
    · cases value
      change inside.files = ready.files at same'
      change (takeFiles ready.files _).Ends _ _ _ at refused
      rw [same] at same' refused
      exact Or.inl ⟨failure, later, takeAll_ends_iff.mpr (Or.inr ⟨failure, refused, rfl⟩), rfl, same'⟩

/-- Behind its manifest, a run fails in a header, with its model or with its report. -/
theorem followManifest_report_failed {surroundings : Surroundings} {manifest : Manifest}
    {directory : Files.Path} {output : Loose} {runId message : String}
    {entries : Stats → List (Document.Scalar × Document.Value)} {fault : Fault}
    (ends : Ends (do
      let stats ← followManifest surroundings manifest directory output
      publishing (Publish.report (entries stats) runId surroundings.now manifest.reportDirectory)
      tell .info message) session (.error fault) after) :
    let taking := (manifest.takeAll directory session.files).Ends (manifest.fresh surroundings.check)
    (∃ failure scan, taking (.error failure) scan ∧ fault = .graph failure ∧
        after.files = session.files) ∨
      ∃ scan, taking (.ok scan.stats) scan ∧ Reach (manifest.fresh surroundings.check) scan ∧
        let first := Publish.model scan.registry.shown.value output session.files
        let second := Publish.report (entries scan.stats) runId surroundings.now
          manifest.reportDirectory first.1
        (∃ cause, first = (after.files, some cause) ∧ fault = .publish cause) ∨
          first.2 = none ∧ ∃ cause, second = (after.files, some cause) ∧ fault = .publish cause := by
  intro taking
  rcases ends_bind_iff.mp ends with ⟨stats, between, followed, rest⟩ | ⟨_, followed, value⟩
  · obtain ⟨_, _, _, value, _⟩ | ⟨scan, took, reach, _, files, ⟨none, value⟩ | ⟨_, _, value⟩⟩ :=
      followManifest_ends followed
    · cases value
    · cases value
      rcases ends_bind_iff.mp rest with ⟨_, _, _, told⟩ | ⟨_, reporting, value⟩
      · cases (ends_tell_iff.mp told).1
      · cases value
        obtain ⟨left, ⟨_, value⟩ | ⟨cause, refused, value⟩⟩ := ends_publishing_iff.mp reporting
        · cases value
        · cases value
          refine Or.inr ⟨scan, took, reach, Or.inr ⟨none, cause, ?_, rfl⟩⟩
          rw [← files, ← left, ← refused]
    · cases value
  · cases value
    obtain ⟨failure, scan, refused, value, files⟩ |
      ⟨scan, took, reach, _, files, ⟨_, value⟩ | ⟨cause, refused, value⟩⟩ :=
      followManifest_ends followed
    · cases value
      exact Or.inl ⟨failure, scan, refused, rfl, files⟩
    · cases value
    · cases value
      exact Or.inr ⟨scan, took, reach, Or.inl ⟨cause, Prod.ext files.symm refused, rfl⟩⟩

end

end CommandLine

end HeaderTypes
