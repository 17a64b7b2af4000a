import HeaderTypes.Proofs.Registry.Reading
import HeaderTypes.Header.Block
import HeaderTypes.Registry.Compatibility

namespace HeaderTypes.Registry
open HeaderTypes.Action

/-- What a field of a struct is in a registry: its type is registered, or it is a
function pointer with a signature of its own, whose types are registered. -/
inductive Part (r : Registry) (struct : String) : Field × Option Descriptor → Prop
  | direct {type name : String} : r.has type → TypeName.canonical type = type →
      Part r struct (⟨type, name⟩, none)
  | pointer {name : String} {returns : Option String} {arguments : List String} :
      Text.isName name.toList → (∀ type ∈ arguments, r.has type) → (∀ type ∈ returns, r.has type) →
      Part r struct (⟨TypeName.ofSignature struct name, name⟩,
        some (.signature (TypeName.ofSignature struct name) returns arguments))

theorem Reads.part {tags : Tags} {r : Registry} {struct statement : String}
    {part : Field × Option Descriptor} (reads : Reads tags r struct statement part) :
    Part r struct part := by
  cases reads with
  | direct read known => exact .direct known (TypeName.canonical_canonical _)
  | pointer read accepted some known returnKnown =>
    refine .pointer (Declaration.isName_of_ofStatement? read) ?_ ?_
    · intro type member
      obtain ⟨spelled, listed, rfl⟩ := List.mem_map.mp member
      exact known spelled listed
    · intro type returned
      split at returned
      · cases returned
      · rename_i other
        cases returned
        exact returnKnown other

theorem part_of_forall₂_reads {tags : Tags} {r : Registry} {struct : String}
    {statements : List String} {parts : List (Field × Option Descriptor)}
    (reads : List.Forall₂ (Reads tags r struct) statements parts) :
    ∀ part ∈ parts, Part r struct part := by
  induction reads with
  | nil => simp
  | cons first _ ih => exact List.forall_mem_cons.mpr ⟨first.part, ih⟩

/-- All that a struct definition needs in order to be registered: its name is
free, every field can be read, and the names of its signatures are free and
different from each other. -/
structure Registration (tags : Tags) (r : Registry) (block : StructBlock) where
  parts : List (Field × Option Descriptor)
  named : Text.isName block.name.toList
  free : r.has block.name = false
  reads : List.Forall₂ (Reads tags r block.name) (Declaration.statements block.body) parts
  fresh : ∀ d ∈ parts.filterMap (·.2), r.has d.name = false
  distinct : ((parts.filterMap (·.2)).map (·.name)).Nodup

namespace Registration
variable {tags : Tags} {r : Registry} {block : StructBlock} (reg : Registration tags r block)

def fields : List Field := reg.parts.map (·.1)

/-- The signatures of the function pointers among the fields, in their order. -/
def signatures : List Descriptor := reg.parts.filterMap (·.2)

/-- The registry as the fields see it. -/
def known : Registry := r.extend reg.signatures

/-- All fields have compatible types. -/
def compatible : Bool := reg.fields.all fun field => (reg.known.find? field.type).any (·.compatible)

def struct : Descriptor := .struct block.name reg.fields reg.compatible

/-- The registry with the signatures and then the struct behind its entries. -/
def registry : Registry := r.extend (reg.signatures ++ [reg.struct])

theorem part_of_mem {part : Field × Option Descriptor} (member : part ∈ reg.parts) :
    Part r block.name part :=
  part_of_forall₂_reads reg.reads part member

/-- Each signature belongs to a field of the struct, and its types are registered before it. -/
theorem signature_of_mem {d : Descriptor} (member : d ∈ reg.signatures) :
    ∃ name returns arguments, Text.isName name.toList ∧
      d = .signature (TypeName.ofSignature block.name name) returns arguments ∧
      (⟨TypeName.ofSignature block.name name, name⟩ : Field) ∈ reg.fields ∧
      (∀ type ∈ arguments, r.has type) ∧ ∀ type ∈ returns, r.has type := by
  obtain ⟨part, listed, same⟩ := List.mem_filterMap.mp member
  have field : part.1 ∈ reg.fields := List.mem_map_of_mem listed
  cases reg.part_of_mem listed with
  | direct known canonical => cases same
  | pointer named known returnKnown =>
    cases same
    exact ⟨_, _, _, named, rfl, field, known, returnKnown⟩

theorem not_isStruct_of_mem_signatures {d : Descriptor} (member : d ∈ reg.signatures) :
    ¬ d.isStruct := by
  obtain ⟨name, returns, arguments, _, rfl, _⟩ := reg.signature_of_mem member
  exact Bool.false_ne_true

theorem key_of_mem_signatures {d : Descriptor} (member : d ∈ reg.signatures) :
    TypeName.key d.name = d.name := by
  obtain ⟨name, returns, arguments, named, rfl, _⟩ := reg.signature_of_mem member
  simp only [Descriptor.signature, TypeName.key, Text.Loose.mapText,
    TypeName.canonical_ofSignature reg.named named]

theorem field_known {field : Field} (member : field ∈ reg.fields) :
    reg.known.has field.type ∧ TypeName.canonical field.type = field.type := by
  obtain ⟨part, listed, rfl⟩ := List.mem_map.mp member
  have signed : ∀ d ∈ part.2, d ∈ reg.signatures := fun d same =>
    List.mem_filterMap.mpr ⟨part, listed, same⟩
  cases reg.part_of_mem listed with
  | direct known canonical => exact ⟨has_extend.mpr (Or.inl known), canonical⟩
  | pointer named known returnKnown =>
    exact ⟨has_extend.mpr (Or.inr ⟨_, signed _ rfl, rfl⟩),
      TypeName.canonical_ofSignature reg.named named⟩

theorem field_entry {field : Field} (member : field ∈ reg.fields) :
    ∃ d, reg.known.find? field.type = some d := by
  obtain ⟨known, canonical⟩ := reg.field_known member
  rw [find?_of_canonical canonical]
  exact Option.isSome_iff_exists.mp known

/-- The name of the struct is no name of a signature, so that it is still free. -/
theorem free_known : reg.known.has block.name = false := by
  refine Bool.eq_false_iff.mpr fun taken => ?_
  rcases has_extend.mp taken with old | ⟨d, member, same⟩
  · exact Bool.false_ne_true (reg.free.symm.trans old)
  · obtain ⟨name, returns, arguments, _, rfl, _⟩ := reg.signature_of_mem member
    exact TypeName.ofSignature_ne_name reg.named (congrArg Text.Loose.text same)

end Registration

theorem allCompatible_eq {r : Registry} {fields : List Field}
    (known : ∀ field ∈ fields, ∃ d, r.find? field.type = some d) :
    r.allCompatible fields =
      .ok (fields.all fun field => (r.find? field.type).any (·.compatible)) := by
  induction fields with
  | nil => rfl
  | cons field fields ih =>
    obtain ⟨d, found⟩ := known field List.mem_cons_self
    have rest := ih fun other member => known other (List.mem_cons_of_mem _ member)
    have step : r.allCompatible (field :: fields) =
        if d.compatible then r.allCompatible fields else .ok false := by
      rw [allCompatible, entry_of_find? found]
      rfl
    rw [step, rest, List.all_cons, found]
    cases compatible : d.compatible <;> simp [compatible]

theorem firstTaken?_eq_none_iff {r : Registry} {seen : List Text.Loose} {ds : List Descriptor} :
    r.firstTaken? seen ds = none ↔
      (∀ d ∈ ds, d.name ∉ seen ∧ r.contains d.name = false) ∧ (ds.map (·.name)).Nodup := by
  induction ds generalizing seen with
  | nil => simp [firstTaken?]
  | cons d ds ih =>
    rw [firstTaken?]
    by_cases taken : seen.contains d.name || r.contains d.name
    · rw [if_pos taken]
      constructor
      · intro same
        cases same
      · rintro ⟨free, _⟩
        simp [free d List.mem_cons_self] at taken
    · simp only [Bool.or_eq_true, List.contains_iff_mem, not_or, Bool.not_eq_true] at taken
      rw [if_neg (by simp [taken]), ih, List.map_cons, List.nodup_cons, List.forall_mem_cons]
      constructor
      · rintro ⟨free, distinct⟩
        refine ⟨⟨taken, fun e member => ?_⟩, fun repeated => ?_, distinct⟩
        · exact ⟨fun old => (free e member).1 (List.mem_cons_of_mem _ old), (free e member).2⟩
        · obtain ⟨e, member, same⟩ := List.mem_map.mp repeated
          exact (free e member).1 (List.mem_cons.mpr (Or.inl same))
      · rintro ⟨⟨_, free⟩, other, distinct⟩
        refine ⟨fun e member => ⟨fun old => ?_, (free e member).2⟩, distinct⟩
        rcases List.mem_cons.mp old with same | earlier
        · exact other (List.mem_map.mpr ⟨e, member, same⟩)
        · exact (free e member).1 earlier

/-- The name that is taken belongs to one of the entries. -/
theorem exists_of_firstTaken? {r : Registry} {seen : List Text.Loose} {ds : List Descriptor}
    {name : String} (taken : r.firstTaken? seen ds = some name) : ∃ d ∈ ds, d.name.text = name := by
  induction ds generalizing seen with
  | nil => cases taken
  | cons d ds ih =>
    rw [firstTaken?] at taken
    split at taken
    · exact ⟨d, List.mem_cons_self, Option.some.inj taken⟩
    · obtain ⟨e, member, same⟩ := ih taken
      exact ⟨e, List.mem_cons_of_mem _ member, same⟩

namespace Registration
variable {tags : Tags} {r : Registry} {block : StructBlock} (reg : Registration tags r block)

theorem firstTaken?_signatures : r.firstTaken? [] reg.signatures = none := by
  refine firstTaken?_eq_none_iff.mpr ⟨fun d member => ⟨List.not_mem_nil, ?_⟩, reg.distinct⟩
  rw [contains, reg.key_of_mem_signatures member]
  exact reg.fresh d member

theorem addFields_ends (thawed : r.frozen = false) :
    (addFields tags block.name block.body).Ends r (.ok reg.fields) reg.known := by
  refine (readEach_ends_iff.mpr ⟨reg.reads, rfl⟩).bind ?_
  rw [ends_get_bind_iff]
  rw [show r.firstTaken? [] (reg.parts.filterMap (·.2)) = none from reg.firstTaken?_signatures]
  exact (addEach_ends thawed (fun d member => reg.key_of_mem_signatures member) reg.fresh
    reg.distinct).bind (ends_pure_iff.mpr ⟨rfl, rfl⟩)

theorem key_struct : TypeName.key reg.struct.name = reg.struct.name := by
  simp only [struct, Descriptor.struct, TypeName.key, Text.Loose.mapText,
    TypeName.canonical_of_isName reg.named]

theorem addStruct_ends (thawed : r.frozen = false) :
    (addStruct block.name reg.fields).Ends reg.known (.ok reg.struct) reg.registry := by
  have free : reg.known.has reg.struct.name = false := reg.free_known
  have added := add_ends_of_free (r := reg.known) thawed reg.key_struct free
  rw [known, extend_extend] at added
  rw [addStruct, ends_get_bind_iff, ends_ofExcept_bind_iff]
  refine Or.inl ⟨reg.compatible, allCompatible_eq fun field member => reg.field_entry member, ?_⟩
  exact added.bind (ends_tell_bind_iff.mpr (ends_pure_iff.mpr ⟨rfl, rfl⟩))

end Registration

/-- Why the fields of a struct are refused: a statement cannot be read, or two
signatures would have one name, or one would have the name of an entry. -/
inductive Refuses (tags : Tags) (r : Registry) (block : StructBlock) : Failure → Prop
  | unread {cause} : Unread tags r block.name (Declaration.statements block.body) cause →
      Refuses tags r block cause
  | taken {parts name} :
      List.Forall₂ (Reads tags r block.name) (Declaration.statements block.body) parts →
      r.firstTaken? [] (parts.filterMap (·.2)) = some name →
      Refuses tags r block (.duplicateType name)

/-- Either a definition can be registered, or its fields are refused and leave no trace. -/
theorem registration_or_refuses {tags : Tags} {r : Registry} {block : StructBlock}
    (named : Text.isName block.name.toList) (free : r.has block.name = false) :
    Nonempty (Registration tags r block) ∨
      ∃ cause, Refuses tags r block cause ∧
        (addFields tags block.name block.body).Ends r (.error cause) r := by
  obtain ⟨result, after, ends⟩ :=
    Ends.exists (readEach tags block.name (Declaration.statements block.body)) r
  cases result with
  | error cause =>
    obtain ⟨unread, rfl⟩ := readEach_ends_error ends
    exact Or.inr ⟨cause, .unread unread, ends.bind_error⟩
  | ok parts =>
    obtain ⟨reads, rfl⟩ := readEach_ends_iff.mp ends
    cases found : r.firstTaken? [] (parts.filterMap (·.2)) with
    | some name =>
      refine Or.inr ⟨_, .taken reads found, ends.bind ?_⟩
      rw [ends_get_bind_iff, found]
      exact ends_refuse_iff.mpr ⟨rfl, rfl⟩
    | none =>
      obtain ⟨fresh, distinct⟩ := firstTaken?_eq_none_iff.mp found
      refine Or.inl ⟨⟨parts, named, free, reads, fun d member => ?_, distinct⟩⟩
      obtain ⟨part, listed, same⟩ := List.mem_filterMap.mp member
      have unseen := (fresh d member).2
      cases part_of_forall₂_reads reads part listed with
      | direct known canonical => cases same
      | pointer fieldNamed known returnKnown =>
        cases same
        simpa only [contains, Descriptor.signature, TypeName.key, Text.Loose.mapText,
          TypeName.canonical_ofSignature named fieldNamed] using unseen

end HeaderTypes.Registry
