import HeaderTypes.Header.Block
import HeaderTypes.Proofs.Text.Words

namespace HeaderTypes
open Text

/-- A definition that was found has a C name. -/
def Finding.Named : Finding → Prop
  | .block definition => isName definition.name.toList
  | _ => True

/-- The definition that was found, if it is one. -/
def Finding.block? : Finding → Option StructBlock
  | .block definition => some definition
  | _ => none

namespace Header

theorem isName_ofTag {tag : List Char} (named : isName tag) :
    isName (TypeName.ofTag (String.ofList tag)).toList := by
  obtain ⟨first, rest, rfl, start, words⟩ := isName_iff.mp named
  refine isName_iff.mpr ⟨first, rest ++ "_t".toList, by simp [TypeName.ofTag], start, ?_⟩
  intro c member
  rcases List.mem_append.mp member with old | suffix
  · exact words c old
  · have ending : "_t".toList.all isWord := by decide
    exact List.all_eq_true.mp ending c suffix

theorem isName_of_marker? {name : Option (List Char)} (named : ∀ given ∈ name, isName given)
    {s found rest : List Char} (marks : marker? name s = some (found, rest)) : isName found := by
  unfold marker? at marks
  split at marks
  · split at marks
    · rename_i read
      split at marks
      · cases Option.some.inj marks
        cases name with
        | none => exact (readName?_eq_some_iff.mp read).2.1
        | some _ =>
          obtain ⟨tail, _, same⟩ := Option.map_eq_some_iff.mp read
          cases same
          exact named _ rfl
      · cases marks
    · cases marks
  · cases marks

theorem isName_of_splitAtMarker? {name : Option (List Char)} (named : ∀ given ∈ name, isName given)
    {s body found rest : List Char} (splits : splitAtMarker? name s = some (body, found, rest)) :
    isName found := by
  induction s generalizing body with
  | nil => cases splits
  | cons c s ih =>
    simp only [splitAtMarker?] at splits
    split at splits
    · rename_i marks
      cases Option.some.inj splits
      exact isName_of_marker? named marks
    · obtain ⟨⟨inner, name', tail⟩, inside, same⟩ := Option.map_eq_some_iff.mp splits
      cases same
      exact ih inside

theorem isName_of_readHead {s tag rest : List Char} (head : readHead s = (some tag, rest)) :
    isName tag := by
  unfold readHead at head
  split at head
  · rename_i read
    cases head
    exact (readName?_eq_some_iff.mp read).2.1
  · cases head

theorem named_of_readDefinition {line : Nat} {s rest : List Char} {finding : Finding}
    (read : readDefinition line s = .ok (finding, rest)) : finding.Named := by
  unfold readDefinition at read
  generalize parts : readHead s = head at read
  obtain ⟨tag, afterHead⟩ := head
  have given : ∀ name ∈ (tag.map fun tag => TypeName.ofTag (String.ofList tag)).map String.toList,
      isName name := by
    intro name member
    cases tag with
    | none => cases member
    | some tag =>
      cases member
      exact isName_ofTag (isName_of_readHead parts)
  dsimp only at read
  split at read
  · cases read
  · split at read
    · rename_i splits
      cases read
      simpa only [Finding.Named, String.toList_ofList] using isName_of_splitAtMarker? given splits
    · cases read
  · split at read
    · cases read
      exact trivial
    · cases read
    · cases read

theorem named_of_mem_findingsFrom (line : Nat) (atStart : Bool) (s : List Char) :
    ∀ finding ∈ findingsFrom line atStart s, finding.Named := by
  fun_induction findingsFrom line atStart s with
  | case1 => simp
  | case2 => simp [Finding.Named]
  | case3 line atStart s opening found finding rest read shorter rest_shorter ih =>
    exact List.forall_mem_cons.mpr ⟨named_of_readDefinition read, ih⟩

/-- Whatever defines a struct in a header has a name that no signature and no
type of several tokens has. -/
theorem named_of_mem_findings (text : String) : ∀ finding ∈ findings text, finding.Named :=
  named_of_mem_findingsFrom 1 true text.toList

end Header

end HeaderTypes
