import HeaderTypes.Proofs.Field.Grammar

namespace HeaderTypes
open Text HeaderTypes.Action

namespace Declaration

/-- A statement is a function pointer under a calling convention that is not in a list. The list
has no say in how the statement is cut into its parts. -/
def Barred (accepted : List String) (statement : String) : Prop :=
  ∃ p, ShortestPointer statement.toList p ∧ String.ofList p.tag ∉ accepted

theorem trim_of_mem_statements {body statement : String} (listed : statement ∈ statements body) :
    trim statement.toList = statement.toList := by
  obtain ⟨part, among, rfl⟩ := List.mem_map.mp listed
  rw [String.toList_ofList, trim_of_mem_trimmedParts among]

section
variable {accepted : List String} {statement : String}
  (trimmed : trim statement.toList = statement.toList)
include trimmed

theorem barred_iff_of_pointer {returns tag name : String} {arguments : List String}
    (read : ofStatement? statement = some (.pointer returns tag name arguments)) :
    Barred accepted statement ↔ tag ∉ accepted := by
  have final := (visible_of_trim trimmed).2
  constructor
  · rintro ⟨p, shortest, barred⟩
    cases read.symm.trans (ofStatement?_of_shortest final shortest)
    exact barred
  · intro barred
    unfold ofStatement? at read
    split at read
    · rename_i returns tag name parameters split
      cases read
      exact ⟨⟨returns, tag, name, parameters⟩,
        (splitDeclarator?_eq_some_iff_shortest final).mp split, barred⟩
    · obtain ⟨_, _, same⟩ := Option.map_eq_some_iff.mp read
      cases same

end

end Declaration

namespace Registry
open Declaration

section
variable {accepted : List String} {statement : String}
  (trimmed : trim statement.toList = statement.toList)
include trimmed

/-- A function pointer under another convention is refused, and not read in some other way. -/
theorem readField_ends_of_barred (barred : Barred accepted statement) (r : Registry)
    (struct : String) :
    (readField (some accepted) struct statement).Ends r (.error (.malformedField struct statement))
      r := by
  obtain ⟨p, shortest, other⟩ := barred
  have read := ofStatement?_of_shortest (visible_of_trim trimmed).2 shortest
  refine readField_ends_of_not_accepted read fun fit => other ?_
  exact List.contains_iff_mem.mp fit.1

/-- Any other statement is read as if all conventions were accepted. -/
theorem readField_of_not_barred (free : ¬ Barred accepted statement) (struct : String) :
    readField (some accepted) struct statement = readField none struct statement := by
  unfold readField
  cases read : ofStatement? statement with
  | none => rfl
  | some d =>
    cases d with
    | direct type name => rfl
    | pointer returns tag name arguments =>
      have among := not_not.mp (mt (barred_iff_of_pointer trimmed read).mpr free)
      have fit : Tags.accept (some accepted) tag = Tags.accept none tag :=
        List.contains_iff_mem.mpr among
      simp only [fit]

theorem reads_some_iff {r : Registry} {struct : String} {part : Field × Option Descriptor} :
    Reads (some accepted) r struct statement part ↔
      Reads none r struct statement part ∧ ¬ Barred accepted statement := by
  have reads_iff (tags : Tags) : Reads tags r struct statement part ↔
      (readField tags struct statement).Ends r (.ok part) r :=
    (and_iff_left rfl).symm.trans readField_ends_iff.symm
  rw [reads_iff, reads_iff]
  constructor
  · intro ends
    have free : ¬ Barred accepted statement := fun barred => by
      cases (ends.unique (readField_ends_of_barred trimmed barred r struct)).1
    exact ⟨readField_of_not_barred trimmed free struct ▸ ends, free⟩
  · rintro ⟨ends, free⟩
    rwa [readField_of_not_barred trimmed free]

end

variable {accepted : List String} {r : Registry} {struct : String} {statements : List String}
  {parts : List (Field × Option Descriptor)}

theorem forall₂_reads_none (reads : List.Forall₂ (Reads (some accepted) r struct) statements parts)
    (trimmed : ∀ statement ∈ statements, trim statement.toList = statement.toList) :
    List.Forall₂ (Reads none r struct) statements parts := by
  induction reads with
  | nil => exact .nil
  | cons first _ ih =>
    obtain ⟨here, others⟩ := List.forall_mem_cons.mp trimmed
    exact .cons ((reads_some_iff here).mp first).1 (ih others)

/-- Statements that can be read are read alike under a list of conventions, or up to the first of
them that is barred. -/
theorem reads_or_unread (accepted : List String)
    (reads : List.Forall₂ (Reads none r struct) statements parts)
    (trimmed : ∀ statement ∈ statements, trim statement.toList = statement.toList) :
    ((∀ statement ∈ statements, ¬ Barred accepted statement) ∧
      List.Forall₂ (Reads (some accepted) r struct) statements parts) ∨
    ∃ early statement late, statements = early ++ statement :: late ∧
      (∀ other ∈ early, ¬ Barred accepted other) ∧ Barred accepted statement ∧
      Unread (some accepted) r struct statements (.malformedField struct statement) := by
  induction reads with
  | nil => exact Or.inl ⟨nofun, .nil⟩
  | @cons statement part statements parts first _ ih =>
    obtain ⟨here, others⟩ := List.forall_mem_cons.mp trimmed
    by_cases barred : Barred accepted statement
    · exact Or.inr ⟨[], statement, statements, rfl, nofun, barred,
        .here (readField_ends_of_barred here barred r struct)⟩
    · have first' := (reads_some_iff here).mpr ⟨first, barred⟩
      rcases ih others with ⟨free, rest⟩ | ⟨early, next, late, rfl, free, barred', unread⟩
      · exact Or.inl ⟨List.forall_mem_cons.mpr ⟨barred, free⟩, .cons first' rest⟩
      · exact Or.inr ⟨statement :: early, next, late, rfl,
          List.forall_mem_cons.mpr ⟨barred, free⟩, barred', .later first' unread⟩

end Registry

end HeaderTypes
