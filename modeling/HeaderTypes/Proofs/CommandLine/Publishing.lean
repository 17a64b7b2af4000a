import HeaderTypes.Proofs.Files.Changes
import HeaderTypes.Publish

namespace HeaderTypes
open Document
open Files (Tree)
open Text (Loose)

theorem Document.Json.writable_of_no_fault {layout : Json.Layout} {value : Value} {text : String}
    (whole : Json.writable layout value = (text, none)) : text = Json.render layout value := by
  obtain ⟨rfl, clean⟩ := Prod.mk.inj whole
  have each : ∀ piece ∈ Json.pieces layout value, (Json.pieceFault? piece).isNone :=
    fun piece member =>
      Option.isNone_iff_eq_none.mpr (List.findSome?_eq_none_iff.mp clean piece member)
  have all :=
    calc (Json.pieces layout value).takeWhile (fun piece => (Json.pieceFault? piece).isNone)
      _ = (Json.pieces layout value ++ []).takeWhile _ := by rw [List.append_nil]
      _ = Json.pieces layout value ++ [] := by
        rw [List.takeWhile_append_of_pos each, List.takeWhile_nil]
      _ = Json.pieces layout value := List.append_nil _
  rw [all]
  rfl

namespace Publish

theorem Attempt.write_of_ok {files written : Tree} {path : Loose} {content : String}
    (wrote : files.write path (bytes content) = .ok written) :
    Attempt.write (files, none) path content = (written, none) := by
  simp only [Attempt.write, wrote]

/-- A file is written, or it is refused and there are only more directories. -/
theorem write_ensured (files : Tree) (directory path : Loose) (content : String) :
    let attempt := Attempt.write (files.ensureDirectory directory) path content
    (∃ fault, attempt.2 = some fault ∧ files.AddsDirectories attempt.1) ∨
      attempt.2 = none ∧ files.WritesFile attempt.1 path (bytes content) := by
  have adds := files.ensureDirectory_adds directory
  generalize files.ensureDirectory directory = ensured at adds ⊢
  obtain ⟨made, _ | fault⟩ := ensured
  · cases wrote : made.write path (bytes content) with
    | ok written =>
      rw [Attempt.write_of_ok wrote]
      exact Or.inr ⟨rfl, Tree.writesFile_of_write adds wrote⟩
    | error fault =>
      have same : Attempt.write (made, none) path content = (made, some fault) := by
        simp only [Attempt.write, wrote]
      rw [same]
      exact Or.inl ⟨fault, rfl, adds⟩
  · exact Or.inl ⟨fault, rfl, adds⟩

/-- A model is written as a whole, or up to the first half of a surrogate pair
in it, or not at all. -/
theorem model_cases (value : Value) (path : Loose) (files : Tree) :
    let attempt := model value path files
    (∃ fault, attempt.2 = some fault ∧ files.AddsDirectories attempt.1) ∨
      (attempt.2 = none ∧
        files.WritesFile attempt.1 path (bytes (Json.render Json.modelLayout value ++ "\n"))) ∨
      ∃ text halves, Json.writable Json.modelLayout value = (text, some halves) ∧
        attempt.2 = some ⟨.halves halves, path⟩ ∧ files.WritesFile attempt.1 path (bytes text) := by
  intro attempt
  have outcome (content : String) :=
    write_ensured files (files.absolute path).parent.text path content
  generalize ensured : files.ensureDirectory (files.absolute path).parent.text = made at outcome
  cases written : Json.writable Json.modelLayout value with
  | mk text fault =>
    cases fault with
    | none =>
      have same : attempt = Attempt.write made path (text ++ "\n") := by
        simp only [attempt, model, written, ensured]
      rw [same, ← Json.writable_of_no_fault written]
      exact (outcome _).imp_right Or.inl
    | some halves =>
      have same : attempt = ((Attempt.write made path text).1,
          (Attempt.write made path text).2 <|> some ⟨.halves halves, path⟩) := by
        simp only [attempt, model, written, ensured]
      rw [same]
      rcases outcome text with ⟨fault, refused, adds⟩ | ⟨kept, writes⟩
      · rw [refused]
        exact Or.inl ⟨fault, rfl, adds⟩
      · rw [kept]
        exact Or.inr (Or.inr ⟨text, halves, rfl, rfl, writes⟩)

/-- A report is written or not at all. -/
theorem report_refused {entries : List (Scalar × Value)} {runId now : String} {directory : Loose}
    {files : Tree} {fault : Files.Fault}
    (refused : (report entries runId now directory files).2 = some fault) :
    files.AddsDirectories (report entries runId now directory files).1 := by
  unfold report at refused ⊢
  rcases write_ensured files directory (reportPath directory runId) _ with ⟨_, _, adds⟩ | ⟨none, _⟩
  · exact adds
  · cases none.symm.trans refused

end Publish

end HeaderTypes
