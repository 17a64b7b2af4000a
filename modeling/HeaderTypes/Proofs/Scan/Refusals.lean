import HeaderTypes.Proofs.Model.Shown
import HeaderTypes.Proofs.Scan.Runs

namespace HeaderTypes.Scan
open HeaderTypes.Action Registry

/-- Once the fields of a block are registered, so is its struct: the type of each field is found,
and no signature has taken the name of the struct. -/
theorem addStruct_ends_of_addFields {tags : Tags} {r known : Registry} {block : StructBlock}
    {fields : List Field} (named : Text.isName block.name.toList) (thawed : r.frozen = false)
    (free : r.contains block.name = false)
    (added : (addFields tags block.name block.body).Ends r (.ok fields) known) :
    ∃ struct after count, (addStruct block.name fields).Ends known (.ok struct) after ∧
      signatureCount after fields = .ok count := by
  rw [contains_of_isName named] at free
  have decided : Nonempty (Registration tags r block) ∨ _ := registration_or_refuses named free
  rcases decided with ⟨⟨reg⟩⟩ | ⟨cause, _, refused⟩
  · obtain ⟨same, rfl⟩ := added.unique (reg.addFields_ends thawed)
    cases same
    exact ⟨_, _, _, reg.addStruct_ends thawed, signatureCount_of_registration reg⟩
  · cases (added.unique refused).1

/-- A header is scanned to its end, or refused for something that was found in it, unless the
registry is frozen: then it is refused as a whole. The struct of a block whose fields are
registered is never refused, and what operations lead to always has a model. -/
theorem takeHeader_refusals (scan : Scan) (text origin : String) :
    (scan.registry.frozen = true →
      (takeHeader text origin).Ends scan (.error (.lateHeader origin)) scan) ∧
    (scan.registry.frozen = false →
      (∃ names after, (takeHeader text origin).Ends scan (.ok names) after) ∨
      ∃ cause after before failing later names,
        (takeHeader text origin).Ends scan (.error cause) after ∧
        Header.findings text = before ++ failing :: later ∧
        Takes scan.starting before names after ∧ failing.RefusedFor cause) ∧
    (∀ block, .block block ∈ Header.findings text → ∀ tags (r known : Registry) fields,
      r.frozen = false → r.contains block.name = false →
      (addFields tags block.name block.body).Ends r (.ok fields) known →
      ∃ struct after count, (addStruct block.name fields).Ends known (.ok struct) after ∧
        signatureCount after fields = .ok count) ∧
    ∀ tags check reached, Reach (fresh tags check) reached →
      (∃ structs, close.Ends reached (.ok structs) reached.closed) ∧
        ∃ model, finish.Ends reached (.ok model) reached.closed := by
  refine ⟨fun frozen => takeHeader_ends_of_frozen frozen text origin, fun thawed => ?_, ?_, ?_⟩
  · rcases takeHeader_cases scan thawed text origin with ⟨names, between, ends, _⟩ |
      ⟨cause, after, before, failing, later, names, ends, split, takes, stops⟩
    · exact Or.inl ⟨names, _, ends⟩
    · exact Or.inr ⟨cause, after, before, failing, later, names, ends, split, takes, stops.refusedFor⟩
  · intro block found tags r known fields thawed free added
    exact addStruct_ends_of_addFields (Header.named_of_mem_findings text _ found) thawed free added
  · intro tags check reached reach
    exact ⟨⟨_, close_ends reached⟩, _, finish_ends_of_reach reach⟩

/-- Two definitions, of which the second has two function pointers of one name. -/
def clashingHeader : String :=
  "typedef struct { int a; } a_t;\ntypedef struct { void (T *f)(void); int (T *f)(int); } d_t;"

theorem takeHeader_refusals_clashingHeader :
    ofInt.registry.frozen = false ∧
      (∃ after before failing later names,
        (takeHeader clashingHeader "h").Ends ofInt (.error (.duplicateType "d_t.f")) after ∧
        Header.findings clashingHeader = before ++ failing :: later ∧
        Takes ofInt.starting before names after ∧ failing.RefusedFor (.duplicateType "d_t.f")) ∧
      .block ⟨"a_t", " int a; ", 1⟩ ∈ Header.findings clashingHeader ∧
      ofInt.registry.contains "a_t" = false ∧
      (addFields none "a_t" " int a; ").Ends ofInt.registry (.ok [⟨"int", "a"⟩]) ofInt.registry ∧
      (∃ struct after count,
        (addStruct "a_t" [⟨"int", "a"⟩]).Ends ofInt.registry (.ok struct) after ∧
        signatureCount after [⟨"int", "a"⟩] = .ok count) ∧
      Reach (fresh none .off) brokenRun ∧
      ∃ model, finish.Ends brokenRun (.ok model) brokenRun.closed := by
  obtain ⟨-, thawed, structs, models⟩ := takeHeader_refusals ofInt clashingHeader "h"
  have found : .block ⟨"a_t", " int a; ", 1⟩ ∈ Header.findings clashingHeader := by decide +kernel
  have free : ofInt.registry.contains "a_t" = false := by decide +kernel
  have added : (addFields none "a_t" " int a; ").Ends ofInt.registry (.ok [⟨"int", "a"⟩])
      ofInt.registry := ⟨by decide +kernel, by decide +kernel⟩
  refine ⟨rfl, ?_, found, free, added, structs _ found none _ _ _ rfl free added, reach_brokenRun,
    (models none .off _ reach_brokenRun).2⟩
  have clash : (takeHeader clashingHeader "h").Ends ofInt (.error (.duplicateType "d_t.f"))
      ((takeHeader clashingHeader "h").run ofInt).state := ⟨by decide +kernel, rfl⟩
  rcases thawed rfl with ⟨names, after, ends⟩ |
    ⟨cause, after, before, failing, later, names, ends, split, takes, refused⟩
  · cases (ends.unique clash).1
  · obtain ⟨same, left⟩ := ends.unique clash
    cases same
    exact ⟨after, before, failing, later, names, ends, split, takes, refused⟩

/-- What turns a file away before any block of it is looked at. -/
inductive Rejects (scan : Scan) (files : Files.Tree) (path : Text.Loose) : Failure → Prop
  | missing : files.file? path = none → Rejects scan files path (.headerNotFound path.text)
  | undecodable {content fault} : files.file? path = some content →
      Text.decodeUtf8 content = .error fault → Rejects scan files path (.undecodable fault)
  | late {text} : headerText? files path = some text → scan.registry.frozen = true →
      Rejects scan files path (.lateHeader path.text)

/-- The syntax errors that are counted for a file before its text is scanned. -/
def errorsTold (scan : Scan) (files : Files.Tree) (path : Text.Loose) : Nat :=
  (headerText? files path).elim 0 scan.check.errors

theorem Rejects.ends {scan : Scan} {files : Files.Tree} {path : Text.Loose} {cause : Failure}
    (rejects : Rejects scan files path cause) :
    ∃ check, (takeFile files path).Ends scan (.error cause)
      (scan.diagnosed check (scan.stats.syntaxErrors + scan.errorsTold files path)) := by
  cases rejects with
  | missing missing =>
    have none : scan.errorsTold files path = 0 := by rw [errorsTold, headerText?, missing]; rfl
    rw [none]
    exact ⟨scan.check, takeFile_ends_of_missing missing⟩
  | undecodable found undecodable =>
    have none : scan.errorsTold files path = 0 := by
      rw [errorsTold, headerText?, found, Option.bind_some, undecodable]
      rfl
    rw [none]
    exact ⟨scan.check, takeFile_ends_of_undecodable found undecodable⟩
  | late read frozen =>
    rename_i text
    let counted := scan.diagnosed scan.check.next (scan.stats.syntaxErrors + scan.check.errors text)
    have frozen : counted.registry.frozen = true := frozen
    rw [errorsTold, read]
    exact ⟨_, (takeFile_ends_iff_of_headerText read).mpr (takeHeader_ends_of_frozen frozen _ _)⟩

theorem takeFile_error_cases {scan after : Scan} {files : Files.Tree} {path : Text.Loose}
    {cause : Failure} (refused : (takeFile files path).Ends scan (.error cause) after) :
    Rejects scan files path cause ∨ ∃ text, headerText? files path = some text ∧
      ∃ finding ∈ Header.findings text, finding.RefusedFor cause := by
  cases read : headerText? files path with
  | none =>
    rcases missing_or_undecodable read with missing | ⟨content, fault, found, undecodable⟩
    · cases (refused.unique (takeFile_ends_of_missing missing)).1
      exact Or.inl (.missing missing)
    · cases (refused.unique (takeFile_ends_of_undecodable found undecodable)).1
      exact Or.inl (.undecodable found undecodable)
  | some text =>
    have scanned := (takeFile_ends_iff_of_headerText read).mp refused
    rcases takeHeader_error_cases scanned with ⟨frozen, rfl⟩ | found
    · exact Or.inl (.late read frozen)
    · exact Or.inr ⟨text, rfl, found⟩

/-- A file that is turned away leaves the registry as it is, and adds only its syntax errors to
the counters. Any other refusal is for something that was found in its text. -/
theorem takeFile_rejected (scan : Scan) (files : Files.Tree) (path : Text.Loose) :
    (∀ cause, Rejects scan files path cause →
      ∃ after, (takeFile files path).Ends scan (.error cause) after ∧
        after.registry = scan.registry ∧ after.tags = scan.tags ∧ after.started = scan.started ∧
        after.stats = { scan.stats with
          syntaxErrors := scan.stats.syntaxErrors + scan.errorsTold files path } ∧
        (after.stats = scan.stats ↔ scan.errorsTold files path = 0)) ∧
    ∀ cause after, (takeFile files path).Ends scan (.error cause) after →
      Rejects scan files path cause ∨ ∃ text, headerText? files path = some text ∧
        ∃ finding ∈ Header.findings text, finding.RefusedFor cause := by
  refine ⟨fun cause rejects => ?_, fun cause after refused => takeFile_error_cases refused⟩
  obtain ⟨check, ends⟩ := rejects.ends
  refine ⟨_, ends, rfl, rfl, rfl, rfl, ?_⟩
  constructor
  · intro same
    exact Nat.left_eq_add.mp (congrArg Stats.syntaxErrors same).symm
  · intro none
    rw [none]
    rfl

/-- One header, of which two syntax errors are told. -/
def oneHeader : Files.Tree :=
  (Files.Tree.withoutFiles ["w"]).withFile "a.h" "int x;;\n".toUTF8.toList

def exportedRun : Scan := Operation.model.after (fresh none (.counted [2]))

theorem takeFile_rejected_oneHeader :
    Rejects exportedRun oneHeader "b.h" (.headerNotFound "b.h") ∧
      exportedRun.errorsTold oneHeader "b.h" = 0 ∧
      (∃ after, (takeFile oneHeader "b.h").Ends exportedRun (.error (.headerNotFound "b.h")) after ∧
        after.registry = exportedRun.registry ∧ after.started = exportedRun.started ∧
        after.stats = exportedRun.stats) ∧
      Rejects exportedRun oneHeader "a.h" (.lateHeader "a.h") ∧
      exportedRun.errorsTold oneHeader "a.h" = 2 ∧
      ∃ after, (takeFile oneHeader "a.h").Ends exportedRun (.error (.lateHeader "a.h")) after ∧
        after.registry = exportedRun.registry ∧ after.started = exportedRun.started ∧
        after.stats = { exportedRun.stats with syntaxErrors := 2 } ∧
        after.stats ≠ exportedRun.stats := by
  have missing : Rejects exportedRun oneHeader "b.h" (.headerNotFound "b.h") :=
    .missing (by decide +kernel)
  have none : exportedRun.errorsTold oneHeader "b.h" = 0 := by decide +kernel
  obtain ⟨after, ends, registry, -, started, -, stats⟩ :=
    (takeFile_rejected exportedRun oneHeader "b.h").1 _ missing
  refine ⟨missing, none, ⟨after, ends, registry, started, stats.mpr none⟩, ?_⟩
  -- a file that is there but comes too late
  have read : headerText? oneHeader "a.h" = some "int x;;\n" := by decide +kernel
  have late : Rejects exportedRun oneHeader "a.h" (.lateHeader "a.h") := .late read rfl
  have two : exportedRun.errorsTold oneHeader "a.h" = 2 := by decide +kernel
  obtain ⟨after, ends, registry, -, started, counted, same⟩ :=
    (takeFile_rejected exportedRun oneHeader "a.h").1 _ late
  rw [two] at counted same
  exact ⟨late, two, after, ends, registry, started, counted,
    fun kept => absurd (same.mp kept) (by decide)⟩

/-- After the model was exported a file is turned away, and its syntax errors are counted all
the same. -/
theorem takeFile_late_counts :
    Reach (fresh none (.counted [2])) exportedRun ∧
      headerText? oneHeader "a.h" = some "int x;;\n" ∧ exportedRun.stats.syntaxErrors = 0 ∧
      ∃ after, (takeFile oneHeader "a.h").Ends exportedRun (.error (.lateHeader "a.h")) after ∧
        after.stats.syntaxErrors = 2 := by
  refine ⟨Reach.start.next .model, by decide +kernel, by decide +kernel,
    ((takeFile oneHeader "a.h").run exportedRun).state, ⟨by decide +kernel, rfl⟩, by decide +kernel⟩

end HeaderTypes.Scan
