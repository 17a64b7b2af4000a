import HeaderTypes.Proofs.Field.Grammar

namespace HeaderTypes
open Text

/-- A character that no field is written with but in the names of its types. -/
structure Text.Foreign (c : Char) : Prop where
  visible : isBlank c = false
  other : isWord c = false
  mark : c ∉ ['(', '*', ')', ',', ';', '.']

theorem TypeName.mem_spelling_iff {c : Char} (visible : isBlank c = false) {s : List Char} :
    c ∈ TypeName.spelling s ↔ c ∈ s := by
  have kept (t : List Char) : c ∈ TypeName.visible t ↔ c ∈ t := by
    simp [TypeName.visible, visible]
  rw [← kept, TypeName.visible_spelling, kept]

namespace Declaration

/-- What begins with tokens holds no character but those, blanks and what follows. -/
theorem Begins.mem {tokens : List (List Char)} {rest s : List Char} (begins : Begins tokens rest s)
    {c : Char} (visible : isBlank c = false) (member : c ∈ s) :
    (∃ token ∈ tokens, c ∈ token) ∨ c ∈ rest := by
  induction begins with
  | nil => exact Or.inr member
  | cons blank _ ih =>
    rcases List.mem_append.mp member with gap | member
    · exact absurd (blank c gap) (Bool.eq_false_iff.mp visible)
    · rcases List.mem_append.mp member with here | later
      · exact Or.inl ⟨_, List.mem_cons_self, here⟩
      · exact (ih later).imp_left fun ⟨token, listed, held⟩ => ⟨token, List.mem_cons_of_mem _ listed, held⟩

section
variable {c : Char} (foreign : Foreign c)
include foreign

theorem Pointer.mem {s : List Char} {p : PointerParts} (pointer : Pointer s p) (member : c ∈ s) :
    c ∈ p.returns ∨ c ∈ p.parameters := by
  obtain ⟨d, rfl, begins⟩ := pointer.written
  have marks : ∀ mark ∈ ['(', '*', ')', ',', ';', '.'], c ∉ [mark] := by
    intro mark listed held
    exact foreign.mark (List.mem_singleton.mp held ▸ listed)
  rcases List.mem_append.mp member with before | behind
  · exact Or.inl before
  · rcases begins.mem foreign.visible behind with ⟨token, listed, held⟩ | last
    · simp only [pointerTokens, List.mem_cons, List.not_mem_nil, or_false] at listed
      rcases listed with rfl | rfl | rfl | rfl | rfl | rfl
      · exact absurd held (marks '(' (by decide))
      · exact absurd held (not_mem_of_isName pointer.tagged foreign.other)
      · exact absurd held (marks '*' (by decide))
      · exact absurd held (not_mem_of_isName pointer.named foreign.other)
      · exact absurd held (marks ')' (by decide))
      · exact absurd held (marks '(' (by decide))
    · rcases List.mem_append.mp last with inside | closing
      · exact Or.inr inside
      · exact absurd closing (marks ')' (by decide))

theorem mem_of_cutLastName? {s type name : List Char} (trimmed : trim s = s)
    (cut : cutLastName? s = some (type, name)) (member : c ∈ s) : c ∈ type := by
  obtain ⟨t, rfl, direct⟩ := (cutLastName?_eq_some_iff trimmed).mp cut
  rw [direct.written] at member
  rcases List.mem_append.mp member with before | last
  · exact (TypeName.mem_spelling_iff foreign.visible).mpr before
  · exact absurd last (not_mem_of_isName direct.named foreign.other)

theorem mem_parameterType {parameter : List Char} (trimmed : trim parameter = parameter)
    (member : c ∈ parameter) : c ∈ parameterType parameter := by
  unfold parameterType
  cases cut : cutLastName? parameter with
  | none => exact (TypeName.mem_spelling_iff foreign.visible).mpr member
  | some found => exact mem_of_cutLastName? foreign trimmed cut member

theorem exists_mem_parameterTypes {parameters : List Char} (member : c ∈ parameters) :
    ∃ type ∈ parameterTypes parameters, c ∈ type := by
  have other : c ≠ ',' := by
    rintro rfl
    exact foreign.mark (by decide)
  obtain ⟨part, listed, held⟩ := exists_mem_trimmedParts other foreign.visible member
  have filled : trimmedParts ',' parameters ≠ [TypeName.void.toList] := by
    intro void
    rw [void] at listed
    cases List.mem_singleton.mp listed
    exact not_mem_of_isName (by decide) foreign.other held
  refine ⟨parameterType part, ?_, mem_parameterType foreign (trim_of_mem_trimmedParts listed) held⟩
  simp only [parameterTypes, if_neg filled]
  exact List.mem_map_of_mem listed

/-- A foreign character of a statement is in one of the types that the statement names. The name of a
parameter is dropped only behind a type that is kept. -/
theorem exists_mem_types {statement : String} {d : Declaration}
    (trimmed : trim statement.toList = statement.toList) (read : ofStatement? statement = some d)
    (member : c ∈ statement.toList) : ∃ type ∈ d.types, c ∈ type.toList := by
  unfold ofStatement? at read
  split at read
  · rename_i returns tag name parameters split
    cases read
    have final := (visible_of_trim trimmed).2
    have shortest := (splitDeclarator?_eq_some_iff_shortest final
      (p := ⟨returns, tag, name, parameters⟩)).mp split
    rcases shortest.toPointer.mem foreign member with before | inside
    · refine ⟨_, List.mem_cons_self, ?_⟩
      rw [String.toList_ofList]
      exact (TypeName.mem_spelling_iff foreign.visible).mpr before
    · obtain ⟨type, listed, held⟩ := exists_mem_parameterTypes foreign inside
      refine ⟨_, List.mem_cons_of_mem _ (List.mem_map_of_mem listed), ?_⟩
      rwa [String.toList_ofList]
  · obtain ⟨⟨type, name⟩, cut, same⟩ := Option.map_eq_some_iff.mp read
    cases same
    refine ⟨_, List.mem_cons_self, ?_⟩
    rw [String.toList_ofList]
    exact mem_of_cutLastName? foreign trimmed cut member

end

end Declaration

namespace Registry
open Declaration

/-- No entry has a character in its name. -/
def Lacks (r : Registry) (c : Char) : Prop := ∀ d ∈ r.entries, c ∉ d.name.text.toList

section
variable {c : Char} (foreign : Foreign c) {tags : Tags} {r : Registry} (lacking : r.Lacks c)
include foreign lacking

theorem not_mem_of_has {type : String} (known : r.has (TypeName.canonical type)) :
    c ∉ type.toList := by
  intro member
  obtain ⟨d, listed, same⟩ := has_iff.mp known
  refine lacking d listed ?_
  rw [same, TypeName.canonical, String.toList_ofList]
  exact (TypeName.mem_spelling_iff foreign.visible).mpr member

/-- A statement that can be read has no foreign character that no entry has. -/
theorem Reads.not_mem {struct statement : String} {part : Field × Option Descriptor}
    (trimmed : trim statement.toList = statement.toList) (reads : Reads tags r struct statement part) :
    c ∉ statement.toList := by
  intro member
  have void : c ∉ TypeName.void.toList := not_mem_of_isName (by decide) foreign.other
  cases reads with
  | direct read known =>
    obtain ⟨type, listed, held⟩ := exists_mem_types foreign trimmed read member
    cases List.mem_singleton.mp listed
    exact not_mem_of_has foreign lacking known held
  | @pointer returns _ _ _ read _ _ known returnKnown =>
    obtain ⟨type, listed, held⟩ := exists_mem_types foreign trimmed read member
    rcases List.mem_cons.mp listed with rfl | argument
    · by_cases none : type = TypeName.void
      · exact void (none ▸ held)
      · exact not_mem_of_has foreign lacking (returnKnown none) held
    · exact not_mem_of_has foreign lacking (known type argument) held

variable {block : StructBlock} (reg : Registration tags r block)
include reg

/-- A definition that can be registered has no foreign character that no entry has. -/
theorem Registration.not_mem_body : c ∉ block.body.toList := by
  intro member
  have other : c ≠ ';' := by
    rintro rfl
    exact foreign.mark (by decide)
  obtain ⟨part, listed, held⟩ := exists_mem_trimmedParts other foreign.visible member
  have statement : String.ofList part ∈ statements block.body := List.mem_map_of_mem listed
  obtain ⟨read, reads⟩ := exists_part_of_mem reg.reads _ statement
  have trimmed : trim (String.ofList part).toList = (String.ofList part).toList := by
    rw [String.toList_ofList, trim_of_mem_trimmedParts listed]
  have absent := reads.not_mem foreign lacking trimmed
  rw [String.toList_ofList] at absent
  exact absent held

/-- The names that a registration adds are words, with a dot for a signature. -/
theorem Registration.lacks : reg.registry.Lacks c := by
  intro d member
  have struct := not_mem_of_isName reg.named foreign.other
  rcases List.mem_append.mp member with old | new
  · exact lacking d old
  · rcases List.mem_append.mp new with signed | last
    · obtain ⟨name, _, _, named, rfl, -⟩ := reg.signature_of_mem signed
      have dot : c ≠ '.' := by
        rintro rfl
        exact foreign.mark (by decide)
      simp only [Descriptor.signature, TypeName.toList_ofSignature, List.mem_append, List.mem_cons,
        not_or]
      exact ⟨struct, dot, not_mem_of_isName named foreign.other⟩
    · cases List.mem_singleton.mp last
      exact struct

end

end Registry

end HeaderTypes
