import HeaderTypes.Proofs.Field.Split
import HeaderTypes.Proofs.Registry.Override

namespace HeaderTypes
open Text HeaderTypes.Action

namespace TypeName

theorem spelling_eq_nil_iff {s : List Char} : spelling s = [] ↔ ∀ c ∈ s, isBlank c := by
  constructor
  · intro empty c member
    have none : visible s = [] := by
      rw [← visible_spelling, empty]
      rfl
    simpa using List.filter_eq_nil_iff.mp none c member
  · intro blank
    have none := tokens_append_of_blank blank []
    rw [List.append_nil, tokens] at none
    rw [spelling, none]
    rfl

end TypeName

namespace Declaration

/-- The types that a declaration names, in the order in which they are looked up. The return type
of a function pointer comes last, unless it is `void`. -/
def uses (struct : String) : Declaration → List UnknownType
  | direct type _ => [⟨struct, type, none, "field"⟩]
  | pointer returns _ name arguments =>
    arguments.map (fun type => ⟨struct, type, some name, "argument"⟩) ++
      if returns = TypeName.void then [] else [⟨struct, returns, some name, "return"⟩]

/-- The field that is declared, and for a function pointer its signature. -/
def part (struct : String) : Declaration → Field × Option Descriptor
  | direct type name => (⟨type, name⟩, none)
  | pointer returns _ name arguments =>
    (⟨TypeName.ofSignature struct name, name⟩,
      some (.signature (TypeName.ofSignature struct name)
        (if returns = TypeName.void then none else some returns) arguments))

/-- A function pointer that says what it returns, under a convention that is accepted. -/
def Accepted (tags : Registry.Tags) : Declaration → Prop
  | direct _ _ => True
  | pointer returns tag _ _ => tags.accept tag ∧ returns ≠ ""

/-- What a function pointer in its parts declares. -/
def PointerParts.declaration (p : PointerParts) : Declaration :=
  .pointer (String.ofList (TypeName.spelling p.returns)) (String.ofList p.tag)
    (String.ofList p.name) ((parameterTypes p.parameters).map String.ofList)

theorem ofStatement?_of_shortest {statement : String} {p : PointerParts}
    (final : startsWith isBlank statement.toList.reverse = false)
    (shortest : ShortestPointer statement.toList p) :
    ofStatement? statement = some p.declaration := by
  rw [ofStatement?, (splitDeclarator?_eq_some_iff_shortest final).mpr shortest]
  rfl

section
variable {statement : String} (trimmed : trim statement.toList = statement.toList)
  (none : ∀ p, ¬ Pointer statement.toList p)
include trimmed none

theorem ofStatement?_of_direct {type name : List Char} (direct : Direct statement.toList type name) :
    ofStatement? statement =
      some (.direct (String.ofList (TypeName.spelling type)) (String.ofList name)) := by
  have cut := (cutLastName?_eq_some_iff trimmed).mpr ⟨type, rfl, direct⟩
  rw [ofStatement?, splitDeclarator?_eq_none_of_no_pointer (visible_of_trim trimmed).2 none, cut]
  rfl

theorem ofStatement?_eq_none (neither : ∀ type name, ¬ Direct statement.toList type name) :
    ofStatement? statement = Option.none := by
  have uncut : cutLastName? statement.toList = Option.none := by
    refine Option.eq_none_iff_forall_ne_some.mpr fun ⟨type, name⟩ cut => ?_
    obtain ⟨t, -, direct⟩ := (cutLastName?_eq_some_iff trimmed).mp cut
    exact neither t name direct
  rw [ofStatement?, splitDeclarator?_eq_none_of_no_pointer (visible_of_trim trimmed).2 none, uncut]
  rfl

end

end Declaration

namespace Registry
open Declaration

/-- The first of some uses of types that has no entry. -/
def firstUnknown? (r : Registry) (uses : List UnknownType) : Option UnknownType :=
  uses.find? fun use => !r.has use.type

/-- What comes of a declaration. It is refused for the first type in it that has no entry. -/
def declared (r : Registry) (struct : String) (d : Declaration) :
    Except Failure (Field × Option Descriptor) :=
  match r.firstUnknown? (d.uses struct) with
  | some use => .error (.unknownType use)
  | none => .ok (d.part struct)

section
variable {r : Registry}

theorem firstUnknown?_cons_of_has {use : UnknownType} (known : r.has use.type)
    (uses : List UnknownType) : r.firstUnknown? (use :: uses) = r.firstUnknown? uses :=
  List.find?_cons_of_neg (by simpa using known)

theorem firstUnknown?_cons_of_not_has {use : UnknownType} (unknown : ¬ r.has use.type)
    (uses : List UnknownType) : r.firstUnknown? (use :: uses) = some use :=
  List.find?_cons_of_pos (by simpa using unknown)

theorem firstUnknown?_append (uses uses' : List UnknownType) :
    r.firstUnknown? (uses ++ uses') = (r.firstUnknown? uses).or (r.firstUnknown? uses') :=
  List.find?_append

variable {struct field role : String}

theorem resolve_eq_of_canonical {type : String} (canonical : TypeName.canonical type = type)
    (field : Option String) : r.resolve type struct field role =
      if r.has type then .ok type else .error (.unknownType ⟨struct, type, field, role⟩) := by
  simp only [resolve, canonical]

theorem resolveEach_eq_of_canonical {types : List String}
    (canonical : ∀ type ∈ types, TypeName.canonical type = type) :
    r.resolveEach struct field role types =
      match r.firstUnknown? (types.map fun type => ⟨struct, type, some field, role⟩) with
      | some use => .error (.unknownType use)
      | none => .ok types := by
  induction types with
  | nil => rfl
  | cons type types ih =>
    obtain ⟨first, others⟩ := List.forall_mem_cons.mp canonical
    rw [resolveEach, resolve_eq_of_canonical first, List.map_cons]
    by_cases known : r.has type
    · rw [if_pos known, firstUnknown?_cons_of_has known, ih others]
      cases r.firstUnknown? (types.map fun type => ⟨struct, type, some field, role⟩) <;> rfl
    · rw [if_neg known, firstUnknown?_cons_of_not_has known]
      rfl

theorem resolveReturn_eq_of_canonical {type : String} (canonical : TypeName.canonical type = type) :
    r.resolveReturn struct field type =
      match r.firstUnknown? (if type = TypeName.void then []
        else [⟨struct, type, some field, "return"⟩]) with
      | some use => .error (.unknownType use)
      | none => .ok (if type = TypeName.void then none else some type) := by
  rw [resolveReturn]
  by_cases none : type = TypeName.void
  · simp only [if_pos none, firstUnknown?, List.find?_nil]
  · simp only [if_neg none, resolve_eq_of_canonical canonical]
    by_cases known : r.has type
    · rw [if_pos known, firstUnknown?_cons_of_has known]
      rfl
    · rw [if_neg known, firstUnknown?_cons_of_not_has known]
      rfl

end

section
variable {tags : Tags} {r : Registry} {struct statement : String}

/-- A statement that declares something ends with the declaration or with the first of its types
that has no entry. -/
theorem readField_ends_declared {d : Declaration} (read : ofStatement? statement = some d)
    (accepted : d.Accepted tags) :
    (readField tags struct statement).Ends r (r.declared struct d) r := by
  have canonical : ∀ type ∈ d.types, TypeName.canonical type = type := canonical_of_mem_types read
  cases d with
  | direct type name =>
    simp only [readField, ends_get_bind_iff, read, declared, uses]
    rw [resolve_eq_of_canonical (canonical type List.mem_cons_self)]
    by_cases known : r.has type
    · rw [if_pos known, firstUnknown?_cons_of_has known, ends_ofExcept_bind_iff]
      exact Or.inl ⟨type, rfl, ends_tell_bind_iff.mpr (ends_pure_iff.mpr ⟨rfl, rfl⟩)⟩
    · rw [if_neg known, firstUnknown?_cons_of_not_has known, ends_ofExcept_bind_iff]
      exact Or.inr ⟨_, rfl, rfl, rfl⟩
  | pointer returns tag name arguments =>
    obtain ⟨back, others⟩ := List.forall_mem_cons.mp canonical
    obtain ⟨tagged, some⟩ := accepted
    have fit : ¬ (!tags.accept tag || returns = "") = true := by simp [tagged, some]
    simp only [readField, ends_get_bind_iff, read, declared, uses, if_neg fit,
      resolveEach_eq_of_canonical others, resolveReturn_eq_of_canonical back, firstUnknown?_append]
    rw [ends_ofExcept_bind_iff]
    cases r.firstUnknown? (arguments.map fun type => ⟨struct, type, Option.some name, "argument"⟩) with
    | some use => exact Or.inr ⟨_, rfl, rfl, rfl⟩
    | none =>
      refine Or.inl ⟨arguments, rfl, ends_ofExcept_bind_iff.mpr ?_⟩
      rw [Option.none_or]
      cases r.firstUnknown? (if returns = TypeName.void then []
        else [⟨struct, returns, Option.some name, "return"⟩]) with
      | some use => exact Or.inr ⟨_, rfl, rfl, rfl⟩
      | none => exact Or.inl ⟨_, rfl, ends_tell_bind_iff.mpr (ends_pure_iff.mpr ⟨rfl, rfl⟩)⟩

theorem readField_ends_of_not_accepted {d : Declaration} (read : ofStatement? statement = some d)
    (refused : ¬ d.Accepted tags) :
    (readField tags struct statement).Ends r (.error (.malformedField struct statement)) r := by
  simp only [readField, ends_get_bind_iff, read]
  cases d with
  | direct type name => exact absurd trivial refused
  | pointer returns tag name arguments =>
    have unfit : (!tags.accept tag || returns = "") = true := by
      simpa [Accepted, imp_iff_not_or] using refused
    simp only [if_pos unfit]
    exact ends_refuse_iff.mpr ⟨rfl, rfl⟩

theorem readField_ends_of_none (read : ofStatement? statement = none) :
    (readField tags struct statement).Ends r (.error (.malformedField struct statement)) r := by
  simp only [readField, ends_get_bind_iff, read]
  exact ends_refuse_iff.mpr ⟨rfl, rfl⟩

end

/-- How a field is entered that was read with some outcome. A signature is registered first, which
may be refused in turn. -/
inductive Entered (r : Registry) :
    Except Failure (Field × Option Descriptor) → Except Failure Field → Registry → Prop
  | refused {cause} : Entered r (.error cause) (.error cause) r
  | plain {field} : Entered r (.ok (field, none)) (.ok field) r
  | signature {field d result after} : (add d).Ends r result after →
      Entered r (.ok (field, some d)) (result.map fun _ => field) after

theorem addField_ends_iff {tags : Tags} {r after : Registry} {struct statement : String}
    {outcome : Except Failure (Field × Option Descriptor)} {result : Except Failure Field}
    (read : (readField tags struct statement).Ends r outcome r) :
    (addField tags struct statement).Ends r result after ↔ Entered r outcome result after := by
  cases outcome with
  | error cause =>
    have refused : (addField tags struct statement).Ends r (.error cause) r := read.bind_error
    constructor
    · intro ends
      obtain ⟨rfl, rfl⟩ := refused.unique ends
      exact .refused
    · rintro ⟨⟩
      exact refused
  | ok part =>
    obtain ⟨field, signature⟩ := part
    rw [addField, ends_bind_of_ends read]
    cases signature with
    | none =>
      constructor
      · intro ends
        obtain ⟨rfl, rfl⟩ := ends_pure_iff.mp ends
        exact .plain
      · rintro ⟨⟩
        exact ends_pure_iff.mpr ⟨rfl, rfl⟩
    | some d =>
      constructor
      · intro ends
        rcases ends_bind_iff.mp ends with ⟨added, between, entered, last⟩ | ⟨cause, refused, rfl⟩
        · obtain ⟨rfl, rfl⟩ := ends_pure_iff.mp last
          exact .signature entered
        · exact .signature refused
      · rintro ⟨⟩
        rename_i added entered
        cases added with
        | ok e => exact entered.bind (ends_pure_iff.mpr ⟨rfl, rfl⟩)
        | error cause => exact entered.bind_error

/-- A field statement is read with some outcome and entered accordingly. -/
def Yields (tags : Tags) (r : Registry) (struct statement : String)
    (outcome : Except Failure (Field × Option Descriptor)) : Prop :=
  (readField tags struct statement).Ends r outcome r ∧
    ∀ result after, (addField tags struct statement).Ends r result after ↔ Entered r outcome result after

theorem yields_of_ends {tags : Tags} {r : Registry} {struct statement : String}
    {outcome : Except Failure (Field × Option Descriptor)}
    (read : (readField tags struct statement).Ends r outcome r) :
    Yields tags r struct statement outcome :=
  ⟨read, fun _ _ => addField_ends_iff read⟩

theorem yields_of_shortest {tags : Tags} {r : Registry} {struct statement : String}
    {p : PointerParts} (final : startsWith isBlank statement.toList.reverse = false)
    (shortest : ShortestPointer statement.toList p) :
    Yields tags r struct statement
      (if p.returns.all isBlank ∨ ¬ tags.accept (String.ofList p.tag) then
        .error (.malformedField struct statement)
      else r.declared struct p.declaration) := by
  have read := ofStatement?_of_shortest final shortest
  have accepted : p.declaration.Accepted tags ↔
      ¬ (p.returns.all isBlank ∨ ¬ tags.accept (String.ofList p.tag)) := by
    have empty : String.ofList (TypeName.spelling p.returns) = "" ↔ p.returns.all isBlank := by
      rw [List.all_eq_true, ← TypeName.spelling_eq_nil_iff, ← String.ofList_nil, String.ofList_inj]
    rw [not_or, not_not, ← empty]
    exact and_comm
  refine yields_of_ends ?_
  split
  · rename_i refused
    exact readField_ends_of_not_accepted read fun fit => accepted.mp fit refused
  · rename_i fit
    exact readField_ends_declared read (accepted.mpr fit)

/-- A field statement is a function pointer wherever it can be read as one, and then the one with
the shortest return type. Otherwise it is a type and a name, and otherwise it is malformed. A return
type without parentheses is the shortest but for the blanks behind it. -/
theorem field_grammar (tags : Tags) (r : Registry) (struct statement : String)
    (trimmed : trim statement.toList = statement.toList) :
    (∀ p, Pointer statement.toList p →
      ∃ q, ShortestPointer statement.toList q ∧ (∀ q', ShortestPointer statement.toList q' → q' = q) ∧
        ('(' ∉ p.returns → q = { p with returns := dropFinalBlanks p.returns }) ∧
        Yields tags r struct statement
          (if q.returns.all isBlank ∨ ¬ tags.accept (String.ofList q.tag) then
            .error (.malformedField struct statement)
          else r.declared struct q.declaration)) ∧
    ((∀ p, ¬ Pointer statement.toList p) →
      (∀ type name, Direct statement.toList type name →
        (∀ type' name', Direct statement.toList type' name' → type' = type ∧ name' = name) ∧
        Yields tags r struct statement (r.declared struct
          (.direct (String.ofList (TypeName.spelling type)) (String.ofList name)))) ∧
      ((∀ type name, ¬ Direct statement.toList type name) →
        Yields tags r struct statement (.error (.malformedField struct statement)))) := by
  have final := (visible_of_trim trimmed).2
  constructor
  · intro p pointer
    obtain ⟨q, shortest⟩ := pointer.exists_shortest final
    refine ⟨q, shortest, fun q' other => other.unique final shortest, fun bare => ?_,
      yields_of_shortest final shortest⟩
    exact shortest.unique final (pointer.shortest_of_bare bare)
  · intro none
    constructor
    · intro type name direct
      refine ⟨fun type' name' other => other.unique direct, ?_⟩
      exact yields_of_ends
        (readField_ends_declared (ofStatement?_of_direct trimmed none direct) trivial)
    · intro neither
      exact yields_of_ends (readField_ends_of_none (ofStatement?_eq_none trimmed none neither))

/-- A function pointer among the parameters of another one is no decomposition of its own. Its text
is looked up as a type. -/
theorem field_grammar_nested :
    trim "int (A *f)(int (B *g)(int))".toList = "int (A *f)(int (B *g)(int))".toList ∧
      Pointer "int (A *f)(int (B *g)(int))".toList
        ⟨"int (A *f)(int".toList, "B".toList, "g".toList, "int)".toList⟩ ∧
      ShortestPointer "int (A *f)(int (B *g)(int))".toList
        ⟨"int".toList, "A".toList, "f".toList, "int (B *g)(int)".toList⟩ ∧
      Yields none { entries := [.primitive "int" true] } "s_t" "int (A *f)(int (B *g)(int))"
        (.error (.unknownType ⟨"s_t", "int (B * g)(int)", some "f", "argument"⟩)) := by
  have trimmed : trim "int (A *f)(int (B *g)(int))".toList = "int (A *f)(int (B *g)(int))".toList := by
    decide +kernel
  have final := (visible_of_trim trimmed).2
  have inner : Pointer "int (A *f)(int (B *g)(int))".toList
      ⟨"int (A *f)(int".toList, "B".toList, "g".toList, "int)".toList⟩ :=
    (pointer_iff final).mpr ⟨" (B *g)(int))".toList, by decide +kernel, by decide +kernel⟩
  have outer : Pointer "int (A *f)(int (B *g)(int))".toList
      ⟨"int ".toList, "A".toList, "f".toList, "int (B *g)(int)".toList⟩ :=
    (pointer_iff final).mpr ⟨"(A *f)(int (B *g)(int))".toList, by decide +kernel, by decide +kernel⟩
  obtain ⟨q, shortest, -, bare, yields⟩ :=
    (field_grammar none { entries := [.primitive "int" true] } "s_t" _ trimmed).1 _ outer
  have used : q = ⟨"int".toList, "A".toList, "f".toList, "int (B *g)(int)".toList⟩ :=
    (bare (by decide +kernel)).trans (by decide +kernel)
  rw [used] at shortest yields
  refine ⟨trimmed, inner, shortest, ?_⟩
  have unknown : Registry.declared { entries := [.primitive "int" true] } "s_t"
      (PointerParts.declaration ⟨"int".toList, "A".toList, "f".toList, "int (B *g)(int)".toList⟩) =
        .error (.unknownType ⟨"s_t", "int (B * g)(int)", some "f", "argument"⟩) := by
    decide +kernel
  rw [if_neg (by decide +kernel), unknown] at yields
  exact yields

end Registry

end HeaderTypes
