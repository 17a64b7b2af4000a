import HeaderTypes.Proofs.Header.Seam
import HeaderTypes.Proofs.Scan.Reach

namespace HeaderTypes

/-- A cause that may tell of a line, with the line a number of lines further down. -/
def Failure.below (lines : Nat) : Failure → Failure
  | .malformedBlock definition => .malformedBlock (definition.below lines)
  | cause => cause

namespace Scan
open HeaderTypes.Action Registry

/-- Of all causes only that of a malformed definition tells of a line. -/
theorem Stops.below_eq {scan : Scan} {block : StructBlock} {cause : Failure}
    (stops : Stops scan (.block block) cause) (lines : Nat) : cause.below lines = cause := by
  cases stops.refusedFor with
  | malformedField | unknownType | duplicateType => rfl

/-- Where a block stands and where it comes from is told and decides nothing. -/
theorem takeBlock_ends_congr {origin origin' : String} {block : StructBlock} {line : Nat}
    {scan after : Scan} {result : Except Failure Bool}
    (ends : (takeBlock origin block).Ends scan result after) :
    (takeBlock origin' { block with line }).Ends scan result after := by
  simp only [takeBlock, ends_tell_bind_iff, ends_get_bind_iff] at ends ⊢
  split at ends
  · rename_i taken
    rw [if_pos taken]
    exact ends
  · rename_i free
    rw [if_neg free]
    exact ends

theorem takeBlock_below {origin : String} {block : StructBlock} {scan last : Scan}
    (thawed : scan.registry.frozen = false) (named : Text.isName block.name.toList)
    {result : Except Failure Bool} (ends : (takeBlock origin block).Ends scan.finishing result last)
    (origin' : String) (lines : Nat) :
    ∃ after, (takeBlock origin' { block with line := block.line + lines }).Ends scan
        (result.mapError (·.below lines)) after ∧ after.finishing = last := by
  rcases takeBlock_cases origin thawed named with ⟨isNew, after, taken, -⟩ | ⟨cause, refused, stops⟩
  · obtain ⟨rfl, rfl⟩ := ends.unique (isAside_finishing.takeBlock thawed named taken)
    exact ⟨after, takeBlock_ends_congr taken, rfl⟩
  · obtain ⟨rfl, rfl⟩ := ends.unique (isAside_finishing.takeBlock thawed named refused)
    refine ⟨scan, ?_, rfl⟩
    rw [Except.mapError, stops.below_eq]
    exact takeBlock_ends_congr refused

/-- What is found in a text that stands below others does to a scan what it does
after a header of its own, but for the lines that are told and the header. -/
theorem takeFindings_below {origin : String} {findings : List Finding}
    (named : ∀ finding ∈ findings, finding.Named) {scan last : Scan}
    (thawed : scan.registry.frozen = false) {result : Except Failure (List String)}
    (ends : (takeFindings origin findings).Ends scan.finishing result last)
    (origin' : String) (lines : Nat) :
    ∃ after, (takeFindings origin' (findings.map (·.below lines))).Ends scan
        (result.mapError (·.below lines)) after ∧ after.finishing = last := by
  induction findings generalizing scan result last with
  | nil =>
    obtain ⟨rfl, rfl⟩ := ends
    exact ⟨scan, ends_pure_iff.mpr ⟨rfl, rfl⟩, rfl⟩
  | cons finding findings ih =>
    obtain ⟨here, others⟩ := List.forall_mem_cons.mp named
    cases finding with
    | forward line =>
      obtain ⟨after, rest, same⟩ := ih others thawed (ends_tell_bind_iff.mp ends)
      exact ⟨after, ends_tell_bind_iff.mpr rest, same⟩
    | malformed block =>
      obtain ⟨rfl, rfl⟩ := ends
      exact ⟨scan, ends_refuse_iff.mpr ⟨rfl, rfl⟩, rfl⟩
    | block block =>
      rcases ends_bind_iff.mp ends with ⟨added, between, first, ends⟩ | ⟨cause, refused, rfl⟩
      · obtain ⟨middle, first', rfl⟩ := takeBlock_below thawed here first origin' lines
        have thawed' := takeBlock_thawed first' thawed here
        rcases ends_bind_iff.mp ends with ⟨names, left, rest, rfl, rfl⟩ | ⟨cause, refused, rfl⟩
        · obtain ⟨after, rest', same⟩ := ih others thawed' rest
          exact ⟨after, first'.bind (rest'.bind (ends_pure_iff.mpr ⟨rfl, rfl⟩)), same⟩
        · obtain ⟨after, refused', same⟩ := ih others thawed' refused
          exact ⟨after, first'.bind refused'.bind_error, same⟩
      · obtain ⟨after, refused', same⟩ := takeBlock_below thawed here refused origin' lines
        exact ⟨after, refused'.bind_error, same⟩

/-- Findings one after the other are taken as those that come first, and then the others. -/
theorem takeFindings_append {origin : String} {first later : List Finding} {scan between after : Scan}
    {names : List String} {result : Except Failure (List String)}
    (begun : (takeFindings origin first).Ends scan (.ok names) between)
    (ends : (takeFindings origin later).Ends between result after) :
    (takeFindings origin (first ++ later)).Ends scan (result.map (names ++ ·)) after := by
  induction first generalizing scan names with
  | nil =>
    obtain ⟨same, rfl⟩ := begun
    cases same
    cases result <;> exact ends
  | cons finding first ih =>
    cases finding with
    | forward line => exact ends_tell_bind_iff.mpr (ih (ends_tell_bind_iff.mp begun))
    | malformed block => cases begun.1
    | block block =>
      rcases ends_bind_iff.mp begun with ⟨added, middle, taken, begun⟩ | ⟨_, _, same⟩
      · rcases ends_bind_iff.mp begun with ⟨others, left, rest, same, left_eq⟩ | ⟨_, _, same⟩
        · cases same
          obtain rfl : left = between := left_eq
          have whole := ih rest
          refine taken.bind ?_
          cases result with
          | ok more =>
            refine whole.bind (ends_pure_iff.mpr ⟨?_, rfl⟩)
            cases added <;> rfl
          | error cause => exact whole.bind_error
        · cases same
      · cases same

/-- Whether a header comes as a whole or parted at the start of a line, the same
types are registered in the same order and the same is counted, but for the
headers. If the scan stops in the second part, it stops as a whole for the same
cause, which then may tell of a line further down. -/
theorem takeHeader_append {a b origin origin' : String} {scan after last : Scan}
    {names : List String} {result : Except Failure (List String)}
    (ended : a = "" ∨ a.toList.getLast? = some '\n') (plain : ¬ "/*".toList <:+: a.toList)
    (whole : Text.lastWord a.toList ≠ "typedef".toList)
    (first : (takeHeader a origin).Ends scan (.ok names) after)
    (second : (takeHeader b origin').Ends after result last) (origin'' : String) :
    ∃ left, (takeHeader (a ++ b) origin'').Ends scan
        ((result.mapError (·.below (a.toList.count '\n'))).map (names ++ ·)) left ∧
      left.finishing = last := by
  obtain ⟨thawed, between, takes, rfl⟩ := takeHeader_ok_iff.mp first
  have thawed' : between.registry.frozen = false := takes.frozen_eq.trans thawed
  have begun : between.finishing.starting = between.finishing := by
    have started : between.started = true := takes.grows.2
    rw [starting, finishing, ← started]
  have early := takes.ends origin'' thawed (Header.named_of_mem_findings a)
  have later (result : Except Failure (List String)) (last : Scan)
      (ends : (takeFindings origin' (Header.findings b)).Ends between.finishing result last) :
      ∃ left, (takeFindings origin'' (Header.findings (a ++ b))).Ends scan.starting
          ((result.mapError (·.below (a.toList.count '\n'))).map (names ++ ·)) left ∧
        left.finishing = last := by
    obtain ⟨left, ends', same⟩ := takeFindings_below (Header.named_of_mem_findings b) thawed' ends
      origin'' (a.toList.count '\n')
    rw [Header.findings_append ended plain whole takes.not_malformed]
    exact ⟨left, takeFindings_append early ends', same⟩
  have counted : between.finishing.registry.frozen = false := thawed'
  rcases (takeHeader_ends_iff counted).mp second with ⟨more, middle, ends, rfl, rfl⟩ |
    ⟨cause, ends, rfl⟩
  · rw [begun] at ends
    obtain ⟨left, ends', rfl⟩ := later _ _ ends
    exact ⟨left.finishing, (takeHeader_ends_iff thawed).mpr (Or.inl ⟨_, left, ends', rfl, rfl⟩), rfl⟩
  · rw [begun] at ends
    obtain ⟨left, ends', rfl⟩ := later _ _ ends
    exact ⟨left, (takeHeader_ends_iff thawed).mpr (Or.inr ⟨_, ends', rfl⟩), rfl⟩

/-- Two whole lines, and then a header that is cut off in its second line. -/
def upperLines : String := "typedef struct { int a; } a_t;\n// what this typedef names\n"

def lowerLines : String := "typedef struct { a_t a; } b_t;\ntypedef struct c"

theorem takeHeader_append_upperLines :
    upperLines.toList.getLast? = some '\n' ∧ ¬ "/*".toList <:+: upperLines.toList ∧
      Text.lastWord upperLines.toList ≠ "typedef".toList ∧
      ∃ after, (takeHeader upperLines "upper").Ends ofInt (.ok ["a_t"]) after ∧
        ∃ last, (takeHeader lowerLines "lower").Ends after
            (.error (.malformedBlock ⟨2, .headCut⟩)) last ∧
          last.registry.entries.map (·.name.text) = ["int", "a_t", "b_t"] ∧
          ∃ left, (takeHeader (upperLines ++ lowerLines) "whole").Ends ofInt
              (.error (.malformedBlock ⟨4, .headCut⟩)) left ∧ left.finishing = last := by
  have ended : upperLines.toList.getLast? = some '\n' := by decide +kernel
  have plain : ¬ "/*".toList <:+: upperLines.toList := by decide +kernel
  have whole : Text.lastWord upperLines.toList ≠ "typedef".toList := by decide +kernel
  have first : (takeHeader upperLines "upper").Ends ofInt (.ok ["a_t"])
      ((takeHeader upperLines "upper").run ofInt).state := ⟨by decide +kernel, rfl⟩
  have second : (takeHeader lowerLines "lower").Ends ((takeHeader upperLines "upper").run ofInt).state
      (.error (.malformedBlock ⟨2, .headCut⟩)) _ := ⟨by decide +kernel, rfl⟩
  have counted : upperLines.toList.count '\n' = 2 := by decide +kernel
  have parted := takeHeader_append (Or.inr ended) plain whole first second "whole"
  rw [counted] at parted
  exact ⟨ended, plain, whole, _, first, _, second, by decide +kernel, parted⟩

end Scan

end HeaderTypes
