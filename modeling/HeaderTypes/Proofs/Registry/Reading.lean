import HeaderTypes.Proofs.Registry.Lookup
import Mathlib.Data.List.Forall2

namespace HeaderTypes
open Text

namespace Declaration

theorem isName_of_cutLastName? {declaration type name : List Char}
    (cut : cutLastName? declaration = some (type, name)) : isName name := by
  dsimp only [cutLastName?] at cut
  split at cut
  · rename_i accepted
    cases Option.some.inj cut
    exact (Bool.and_eq_true_iff.mp accepted).1
  · simp at cut

theorem isName_of_declarator? {s tag name parameters : List Char}
    (read : declarator? s = some (tag, name, parameters)) : isName tag ∧ isName name := by
  obtain ⟨afterParen, _, read⟩ := Option.bind_eq_some_iff.mp read
  obtain ⟨⟨foundTag, afterTag⟩, readTag, read⟩ := Option.bind_eq_some_iff.mp read
  obtain ⟨afterStar, _, read⟩ := Option.bind_eq_some_iff.mp read
  obtain ⟨⟨foundName, afterName⟩, readName, read⟩ := Option.bind_eq_some_iff.mp read
  obtain ⟨afterClose, _, read⟩ := Option.bind_eq_some_iff.mp read
  obtain ⟨afterOpen, _, read⟩ := Option.bind_eq_some_iff.mp read
  obtain ⟨inside, _, same⟩ := Option.bind_eq_some_iff.mp read
  cases Option.some.inj same
  exact ⟨(readName?_eq_some_iff.mp readTag).2.1, (readName?_eq_some_iff.mp readName).2.1⟩

theorem isName_of_splitDeclarator? {s returns tag name parameters : List Char}
    (split : splitDeclarator? s = some (returns, tag, name, parameters)) :
    isName tag ∧ isName name := by
  induction s generalizing returns with
  | nil => simp [splitDeclarator?] at split
  | cons c s ih =>
    simp only [splitDeclarator?] at split
    split at split
    · rename_i found
      cases Option.some.inj split
      exact isName_of_declarator? found
    · obtain ⟨⟨before, parts⟩, inside, same⟩ := Option.map_eq_some_iff.mp split
      cases same
      exact ih inside

/-- The name of the field that is declared. -/
def name : Declaration → String
  | direct _ name => name
  | pointer _ _ name _ => name

theorem isName_of_ofStatement? {statement : String} {declaration : Declaration}
    (read : ofStatement? statement = some declaration) : isName declaration.name.toList := by
  unfold ofStatement? at read
  split at read
  · rename_i split
    cases Option.some.inj read
    simpa only [name, String.toList_ofList] using (isName_of_splitDeclarator? split).2
  · obtain ⟨⟨type, found⟩, cut, same⟩ := Option.map_eq_some_iff.mp read
    cases same
    simpa only [name, String.toList_ofList] using isName_of_cutLastName? cut

end Declaration

namespace Registry
open HeaderTypes.TypeName HeaderTypes.Action

theorem resolve_eq_ok_iff {r : Registry} {type struct role key : String} {field : Option String} :
    r.resolve type struct field role = .ok key ↔ key = canonical type ∧ r.has (canonical type) := by
  unfold resolve
  by_cases known : r.has (canonical type)
  · rw [if_pos known, Except.ok.injEq]
    exact ⟨fun same => ⟨same.symm, known⟩, fun both => both.1.symm⟩
  · simp [known]

theorem resolveEach_eq_ok_iff {r : Registry} {struct field role : String} {types keys : List String} :
    r.resolveEach struct field role types = .ok keys ↔
      keys = types.map canonical ∧ ∀ type ∈ types, r.has (canonical type) := by
  induction types generalizing keys with
  | nil =>
    rw [resolveEach, List.map_nil, Except.ok.injEq]
    exact ⟨fun same => ⟨same.symm, nofun⟩, fun all => all.1.symm⟩
  | cons type types ih =>
    rw [resolveEach]
    cases first : r.resolve type struct (some field) role with
    | error cause =>
      have unknown : ¬ r.has (canonical type) := by
        intro known
        cases first.symm.trans (resolve_eq_ok_iff.mpr ⟨rfl, known⟩)
      constructor
      · intro same
        cases same
      · intro all
        exact absurd (all.2 type List.mem_cons_self) unknown
    | ok key =>
      obtain ⟨rfl, known⟩ := resolve_eq_ok_iff.mp first
      cases rest : r.resolveEach struct field role types with
      | error cause =>
        constructor
        · intro same
          cases same
        · rintro ⟨rfl, all⟩
          cases rest.symm.trans
            (ih.mpr ⟨rfl, fun other member => all other (List.mem_cons_of_mem _ member)⟩)
      | ok others =>
        obtain ⟨rfl, all⟩ := ih.mp rest
        constructor
        · intro same
          cases same
          exact ⟨rfl, List.forall_mem_cons.mpr ⟨known, all⟩⟩
        · rintro ⟨rfl, _⟩
          rfl

theorem resolveReturn_eq_ok_iff {r : Registry} {struct field type : String}
    {returns : Option String} :
    r.resolveReturn struct field type = .ok returns ↔
      returns = (if type = void then none else some (canonical type)) ∧
        (type ≠ void → r.has (canonical type)) := by
  unfold resolveReturn
  by_cases none : type = void
  · rw [if_pos none, if_pos none, Except.ok.injEq]
    exact ⟨fun same => ⟨same.symm, fun other => absurd none other⟩, fun both => both.1.symm⟩
  · rw [if_neg none, if_neg none]
    cases found : r.resolve type struct (some field) "return" with
    | error cause =>
      constructor
      · intro same
        cases same
      · rintro ⟨_, known⟩
        cases found.symm.trans (resolve_eq_ok_iff.mpr ⟨rfl, known none⟩)
    | ok key =>
      obtain ⟨rfl, known⟩ := resolve_eq_ok_iff.mp found
      constructor
      · intro same
        cases same
        exact ⟨rfl, fun _ => known⟩
      · rintro ⟨rfl, _⟩
        rfl

/-- What a statement says of a struct whose types are looked up in a registry:
the field, and for a function pointer the signature that is registered for it.
Every type that is named has an entry. -/
inductive Reads (tags : Tags) (r : Registry) (struct statement : String) :
    Field × Option Descriptor → Prop
  | direct {type name} : Declaration.ofStatement? statement = some (.direct type name) →
      r.has (canonical type) → Reads tags r struct statement (⟨canonical type, name⟩, none)
  | pointer {returns tag name arguments} :
      Declaration.ofStatement? statement = some (.pointer returns tag name arguments) →
      tags.accept tag → returns ≠ "" → (∀ type ∈ arguments, r.has (canonical type)) →
      (returns ≠ void → r.has (canonical returns)) →
      Reads tags r struct statement (⟨ofSignature struct name, name⟩,
        some (.signature (ofSignature struct name)
          (if returns = void then none else some (canonical returns)) (arguments.map canonical)))

section
variable {tags : Tags} {struct statement : String} {r after : Registry}
  {part : Field × Option Descriptor}

theorem readField_ends_iff_of_direct {type name : String}
    (read : Declaration.ofStatement? statement = some (.direct type name)) :
    (readField tags struct statement).Ends r (.ok part) after ↔
      r.has (canonical type) ∧ (⟨canonical type, name⟩, none) = part ∧ r = after := by
  simp only [readField, ends_get_bind_iff, read, ends_ofExcept_bind_iff, ends_tell_bind_iff,
    ends_pure_iff, resolve_eq_ok_iff]
  constructor
  · rintro (⟨key, ⟨rfl, known⟩, same, left⟩ | ⟨cause, _, refused, _⟩)
    · exact ⟨known, Except.ok.inj same, left⟩
    · cases refused
  · rintro ⟨known, rfl, left⟩
    exact Or.inl ⟨_, ⟨rfl, known⟩, rfl, left⟩

theorem readField_ends_iff_of_pointer {returns tag name : String} {arguments : List String}
    (read : Declaration.ofStatement? statement = some (.pointer returns tag name arguments)) :
    (readField tags struct statement).Ends r (.ok part) after ↔
      (tags.accept tag ∧ returns ≠ "" ∧ (∀ type ∈ arguments, r.has (canonical type)) ∧
        (returns ≠ void → r.has (canonical returns))) ∧
      (⟨ofSignature struct name, name⟩, some (.signature (ofSignature struct name)
        (if returns = void then none else some (canonical returns))
          (arguments.map canonical))) = part ∧ r = after := by
  simp only [readField, ends_get_bind_iff, read]
  by_cases refused : !tags.accept tag || returns = ""
  · rw [if_pos refused]
    constructor
    · rintro ⟨same, _⟩
      cases same
    · rintro ⟨⟨accepted, some, _⟩, _⟩
      simp [accepted, some] at refused
  · rw [if_neg refused]
    simp only [Bool.or_eq_true, Bool.not_eq_true', decide_eq_true_eq, not_or,
      Bool.not_eq_false] at refused
    simp only [ends_ofExcept_bind_iff, ends_tell_bind_iff, ends_pure_iff, resolveEach_eq_ok_iff,
      resolveReturn_eq_ok_iff]
    constructor
    · rintro (⟨keys, ⟨rfl, known⟩, ⟨back, ⟨rfl, backKnown⟩, same, left⟩ | ⟨_, _, same, _⟩⟩ |
        ⟨_, _, same, _⟩)
      · exact ⟨⟨refused.1, refused.2, known, backKnown⟩, Except.ok.inj same, left⟩
      · cases same
      · cases same
    · rintro ⟨⟨_, _, known, backKnown⟩, rfl, left⟩
      exact Or.inl ⟨_, ⟨rfl, known⟩, Or.inl ⟨_, ⟨rfl, backKnown⟩, rfl, left⟩⟩

/-- Reading a field statement changes nothing, and succeeds exactly when the statement can be read. -/
theorem readField_ends_iff :
    (readField tags struct statement).Ends r (.ok part) after ↔
      Reads tags r struct statement part ∧ r = after := by
  constructor
  · intro ends
    cases read : Declaration.ofStatement? statement with
    | none =>
      simp only [readField, ends_get_bind_iff, read] at ends
      cases ends.1
    | some declaration =>
      cases declaration with
      | direct type name =>
        obtain ⟨known, rfl, left⟩ := (readField_ends_iff_of_direct read).mp ends
        exact ⟨.direct read known, left⟩
      | pointer returns tag name arguments =>
        obtain ⟨⟨accepted, some, known, backKnown⟩, rfl, left⟩ :=
          (readField_ends_iff_of_pointer read).mp ends
        exact ⟨.pointer read accepted some known backKnown, left⟩
  · rintro ⟨reads, left⟩
    cases reads with
    | direct read known => exact (readField_ends_iff_of_direct read).mpr ⟨known, rfl, left⟩
    | pointer read accepted some known backKnown =>
      exact (readField_ends_iff_of_pointer read).mpr
        ⟨⟨accepted, some, known, backKnown⟩, rfl, left⟩

end

/-- A statement that cannot be read changes nothing either. -/
theorem readField_ends_same {tags : Tags} {struct statement : String} {r after : Registry}
    {result : Except Failure (Field × Option Descriptor)}
    (ends : (readField tags struct statement).Ends r result after) : r = after := by
  unfold readField at ends
  rw [ends_get_bind_iff] at ends
  split at ends
  · exact ends.2
  · simp only [ends_ofExcept_bind_iff, ends_tell_bind_iff, ends_pure_iff] at ends
    rcases ends with ⟨_, _, _, left⟩ | ⟨_, _, _, left⟩ <;> exact left
  · split at ends
    · exact ends.2
    · simp only [ends_ofExcept_bind_iff, ends_tell_bind_iff, ends_pure_iff] at ends
      rcases ends with ⟨_, _, ⟨_, _, _, left⟩ | ⟨_, _, _, left⟩⟩ | ⟨_, _, _, left⟩ <;> exact left

theorem resolve_error {r : Registry} {type struct role : String} {field : Option String}
    {cause : Failure} (refused : r.resolve type struct field role = .error cause) :
    ∃ use, use.struct = struct ∧ cause = .unknownType use := by
  unfold resolve at refused
  dsimp only at refused
  split at refused
  · cases refused
  · cases refused
    exact ⟨_, rfl, rfl⟩

theorem bind_error_cases {α β : Type} {first : Except Failure α} {next : α → Except Failure β}
    {cause : Failure} (failed : (first >>= next) = .error cause) :
    first = .error cause ∨ ∃ a, next a = .error cause := by
  cases first with
  | ok a => exact Or.inr ⟨a, failed⟩
  | error other =>
    cases failed
    exact Or.inl rfl

theorem resolveEach_error {r : Registry} {struct field role : String} {types : List String}
    {cause : Failure} (refused : r.resolveEach struct field role types = .error cause) :
    ∃ use, use.struct = struct ∧ cause = .unknownType use := by
  induction types with
  | nil => cases refused
  | cons type types ih =>
    rcases bind_error_cases refused with first | ⟨key, others⟩
    · exact resolve_error first
    · rcases bind_error_cases others with rest | ⟨keys, done⟩
      · exact ih rest
      · cases done

theorem resolveReturn_error {r : Registry} {struct field type : String} {cause : Failure}
    (refused : r.resolveReturn struct field type = .error cause) :
    ∃ use, use.struct = struct ∧ cause = .unknownType use := by
  unfold resolveReturn at refused
  split at refused
  · cases refused
  · cases found : r.resolve type struct (some field) "return" with
    | error cause' =>
      rw [found] at refused
      cases refused
      exact resolve_error found
    | ok key =>
      rw [found] at refused
      cases refused

/-- A statement is refused for its form or for a type that it names, and the
cause tells of the struct. -/
theorem readField_error {tags : Tags} {struct statement : String} {r after : Registry}
    {cause : Failure} (ends : (readField tags struct statement).Ends r (.error cause) after) :
    cause = .malformedField struct statement ∨
      ∃ use, use.struct = struct ∧ cause = .unknownType use := by
  unfold readField at ends
  rw [ends_get_bind_iff] at ends
  split at ends
  · cases ends.1
    exact Or.inl rfl
  · simp only [ends_ofExcept_bind_iff, ends_tell_bind_iff, ends_pure_iff] at ends
    rcases ends with ⟨_, _, same, _⟩ | ⟨_, refused, same, _⟩
    · cases same
    · cases same
      exact Or.inr (resolve_error refused)
  · split at ends
    · cases ends.1
      exact Or.inl rfl
    · simp only [ends_ofExcept_bind_iff, ends_tell_bind_iff, ends_pure_iff] at ends
      rcases ends with ⟨_, _, ⟨_, _, same, _⟩ | ⟨_, refused, same, _⟩⟩ | ⟨_, refused, same, _⟩
      · cases same
      · cases same
        exact Or.inr (resolveReturn_error refused)
      · cases same
        exact Or.inr (resolveEach_error refused)

/-- The first statement of several that cannot be read is refused for a cause. -/
inductive Unread (tags : Tags) (r : Registry) (struct : String) : List String → Failure → Prop
  | here {statement later cause} : (readField tags struct statement).Ends r (.error cause) r →
      Unread tags r struct (statement :: later) cause
  | later {statement part statements cause} : Reads tags r struct statement part →
      Unread tags r struct statements cause → Unread tags r struct (statement :: statements) cause

/-- The cause tells of the struct whose statements are read, and of no other statement. -/
theorem Unread.cause_cases {tags : Tags} {r : Registry} {struct : String} {statements : List String}
    {cause : Failure} (unread : Unread tags r struct statements cause) :
    (∃ statement ∈ statements, cause = .malformedField struct statement) ∨
      ∃ use, use.struct = struct ∧ cause = .unknownType use := by
  induction unread with
  | here ends => exact (readField_error ends).imp_left fun same => ⟨_, List.mem_cons_self, same⟩
  | later _ _ ih =>
    refine ih.imp_left ?_
    rintro ⟨statement, member, same⟩
    exact ⟨statement, List.mem_cons_of_mem _ member, same⟩

theorem readEach_ends_iff {tags : Tags} {struct : String} {statements : List String}
    {r after : Registry} {parts : List (Field × Option Descriptor)} :
    (readEach tags struct statements).Ends r (.ok parts) after ↔
      List.Forall₂ (Reads tags r struct) statements parts ∧ r = after := by
  induction statements generalizing parts after with
  | nil =>
    simp only [readEach, ends_pure_iff, List.forall₂_nil_left_iff, Except.ok.injEq]
    exact and_congr_left fun _ => eq_comm
  | cons statement statements ih =>
    simp only [readEach]
    constructor
    · intro ends
      rcases ends_bind_iff.mp ends with ⟨part, between, first, ends⟩ | ⟨_, _, same⟩
      · obtain ⟨reads, rfl⟩ := readField_ends_iff.mp first
        rcases ends_bind_iff.mp ends with ⟨others, between, rest, same, left⟩ | ⟨_, _, same⟩
        · obtain ⟨all, rfl⟩ := ih.mp rest
          cases same
          exact ⟨.cons reads all, left⟩
        · cases same
      · cases same
    · rintro ⟨all, rfl⟩
      cases all with
      | cons reads rest =>
        exact (readField_ends_iff.mpr ⟨reads, rfl⟩).bind
          ((ih.mpr ⟨rest, rfl⟩).bind (ends_pure_iff.mpr ⟨rfl, rfl⟩))

theorem exists_reads_of_mem {tags : Tags} {r : Registry} {struct : String} {statements : List String}
    {parts : List (Field × Option Descriptor)}
    (reads : List.Forall₂ (Reads tags r struct) statements parts) :
    ∀ part ∈ parts, ∃ statement ∈ statements, Reads tags r struct statement part := by
  induction reads with
  | nil => nofun
  | @cons statement part statements parts first _ ih =>
    intro other member
    rcases List.mem_cons.mp member with rfl | later
    · exact ⟨statement, List.mem_cons_self, first⟩
    · obtain ⟨written, listed, read⟩ := ih other later
      exact ⟨written, List.mem_cons_of_mem _ listed, read⟩

theorem exists_part_of_mem {tags : Tags} {r : Registry} {struct : String} {statements : List String}
    {parts : List (Field × Option Descriptor)}
    (reads : List.Forall₂ (Reads tags r struct) statements parts) :
    ∀ statement ∈ statements, ∃ part, Reads tags r struct statement part := by
  induction reads with
  | nil => nofun
  | cons first _ ih => exact List.forall_mem_cons.mpr ⟨⟨_, first⟩, ih⟩

theorem readEach_ends_error {tags : Tags} {struct : String} {statements : List String}
    {r after : Registry} {cause : Failure}
    (ends : (readEach tags struct statements).Ends r (.error cause) after) :
    Unread tags r struct statements cause ∧ r = after := by
  induction statements with
  | nil => cases ends.1
  | cons statement statements ih =>
    rcases ends_bind_iff.mp ends with ⟨part, between, first, ends⟩ | ⟨_, refused, same⟩
    · obtain ⟨reads, rfl⟩ := readField_ends_iff.mp first
      rcases ends_bind_iff.mp ends with ⟨others, between, _, same, _⟩ | ⟨_, refused, same⟩
      · cases same
      · cases same
        obtain ⟨unread, left⟩ := ih refused
        exact ⟨.later reads unread, left⟩
    · cases same
      obtain rfl := readField_ends_same refused
      exact ⟨.here refused, rfl⟩

end Registry

end HeaderTypes
