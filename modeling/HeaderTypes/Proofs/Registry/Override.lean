import HeaderTypes.Proofs.Registry.PlainData
import HeaderTypes.Proofs.Registry.Weakening

namespace HeaderTypes
open Relation

namespace Declaration
open HeaderTypes.TypeName

theorem canonical_ofList_spelling (s : List Char) :
    canonical (String.ofList (spelling s)) = String.ofList (spelling s) := by
  rw [canonical, String.toList_ofList, spelling_spelling]

theorem cutLastName?_spelling {declaration type name : List Char}
    (cut : cutLastName? declaration = some (type, name)) : ∃ s, type = spelling s := by
  dsimp only [cutLastName?] at cut
  split at cut
  · cases Option.some.inj cut
    exact ⟨_, rfl⟩
  · cases cut

theorem parameterType_spelling (parameter : List Char) :
    ∃ s, parameterType parameter = spelling s := by
  unfold parameterType
  split
  · rename_i cut
    exact cutLastName?_spelling cut
  · exact ⟨_, rfl⟩

/-- The types that a statement names are told in their canonical spelling. -/
theorem canonical_of_mem_types {statement : String} {declaration : Declaration}
    (read : ofStatement? statement = some declaration) :
    ∀ type ∈ declaration.types, canonical type = type := by
  unfold ofStatement? at read
  split at read
  · rename_i returns tag name parameters _
    cases Option.some.inj read
    intro type member
    rcases List.mem_cons.mp member with rfl | listed
    · exact canonical_ofList_spelling returns
    · obtain ⟨spelled, among, rfl⟩ := List.mem_map.mp listed
      dsimp only [parameterTypes] at among
      split at among
      · cases among
      · obtain ⟨parameter, _, rfl⟩ := List.mem_map.mp among
        obtain ⟨s, same⟩ := parameterType_spelling parameter
        rw [same]
        exact canonical_ofList_spelling s
  · obtain ⟨⟨type, name⟩, cut, same⟩ := Option.map_eq_some_iff.mp read
    cases same
    intro other member
    cases List.mem_singleton.mp member
    obtain ⟨s, rfl⟩ := cutLastName?_spelling cut
    exact canonical_ofList_spelling s

end Declaration

theorem StructBlock.canonical_of_mem_types {block : StructBlock} {type : String}
    (named : type ∈ block.types) : TypeName.canonical type = type := by
  obtain ⟨declaration, listed, here⟩ := List.mem_flatMap.mp named
  obtain ⟨statement, _, read⟩ := List.mem_filterMap.mp listed
  exact Declaration.canonical_of_mem_types read type here

namespace TypeName

/-- What follows the dot in the name of a signature may be anything. -/
theorem belongsTo_iff {struct : String} {name : Text.Loose} :
    BelongsTo struct name ↔ name = struct ∨
      name.stoodFor = [] ∧ (ofSignature struct "").toList <+: name.text.toList := by
  refine or_congr_right ⟨?_, ?_⟩
  · rintro ⟨field, rfl⟩
    exact ⟨rfl, field.toList, by simp [toList_ofSignature]⟩
  · rintro ⟨whole, field, same⟩
    refine ⟨String.ofList field, ?_⟩
    obtain ⟨text, stoodFor⟩ := name
    cases whole
    refine congrArg (fun text => (⟨text, []⟩ : Text.Loose)) (String.toList_inj.mp ?_)
    rw [← same, toList_ofSignature, toList_ofSignature, String.toList_ofList]
    simp

instance (struct : String) : DecidablePred (BelongsTo struct) := fun _ =>
  decidable_of_iff _ belongsTo_iff.symm

end TypeName

namespace Registry
open HeaderTypes.TypeName

theorem Uses.extend {r : Registry} {d e : Descriptor} (uses : r.Uses d e) (more : List Descriptor) :
    (r.extend more).Uses d e := by
  obtain ⟨field, listed, found⟩ := uses
  refine ⟨field, listed, ?_⟩
  rw [find?, entry?_extend, show r.entry? (canonical field.type) = some e from found, Option.some_or]

/-- The entries that are neither a struct of some name nor one of its signatures. -/
def others (struct : String) (entries : List Descriptor) : List Descriptor :=
  entries.filter fun d => ¬ BelongsTo struct d.name

theorem others_append (struct : String) (first last : List Descriptor) :
    others struct (first ++ last) = others struct first ++ others struct last :=
  List.filter_append ..

theorem others_of_belongsTo {struct : String} {entries : List Descriptor}
    (all : ∀ d ∈ entries, BelongsTo struct d.name) : others struct entries = [] := by
  simpa [others] using all

theorem others_of_not_belongsTo {struct : String} {entries : List Descriptor}
    (none : ∀ d ∈ entries, ¬ BelongsTo struct d.name) : others struct entries = entries := by
  simpa [others] using none

/-- An entry of a registry, and what it is where a primitive with some flag
stands for a struct of the registry. The two can differ in their flags only, and
only if the entry is made of that struct and the struct has another flag. -/
structure Alike (r : Registry) (struct : String) (flag : Bool) (d d' : Descriptor) : Prop where
  name : d'.name = d.name
  shape : d'.shape = d.shape
  reaches : d'.compatible ≠ d.compatible →
    ∃ e, r.entry? struct = some e ∧ e.compatible ≠ flag ∧ TransGen r.Uses d e

theorem Alike.refl (r : Registry) (struct : String) (flag : Bool) (d : Descriptor) :
    r.Alike struct flag d d :=
  ⟨rfl, rfl, fun other => absurd rfl other⟩

theorem Alike.extend {r : Registry} {struct : String} {flag : Bool} {d d' : Descriptor}
    (alike : r.Alike struct flag d d') (more : List Descriptor) :
    (r.extend more).Alike struct flag d d' where
  name := alike.name
  shape := alike.shape
  reaches other := by
    obtain ⟨e, found, flagged, reach⟩ := alike.reaches other
    refine ⟨e, ?_, flagged, TransGen.mono (fun _ _ (uses : r.Uses _ _) => uses.extend more) _ _ reach⟩
    rw [entry?_extend, found, Option.some_or]

/-- Two registries that differ only in that the second one has a primitive of
some flag in the place of a struct and its signatures. -/
structure Overrides (struct : String) (flag : Bool) (r r' : Registry) : Prop where
  primitive : r'.entry? struct = some (.primitive struct flag)
  bare : ∀ d ∈ r'.entries, BelongsTo struct d.name → d.shape = .primitive
  alike : List.Forall₂ (r.Alike struct flag) (others struct r.entries) (others struct r'.entries)

section
variable {r r' : Registry} {struct : String} {flag : Bool}

/-- Entries under the same names are found alike. -/
theorem find?_alike {entries entries' : List Descriptor}
    (alike : List.Forall₂ (r.Alike struct flag) entries entries') (key : Text.Loose) :
    entries.find? (·.name = key) = none ∧ entries'.find? (·.name = key) = none ∨
      ∃ d d', entries.find? (·.name = key) = some d ∧ entries'.find? (·.name = key) = some d' ∧
        r.Alike struct flag d d' := by
  induction alike with
  | nil => exact Or.inl ⟨rfl, rfl⟩
  | @cons d d' _ _ first _ ih =>
    by_cases here : d.name = key
    · have here' : d'.name = key := first.name.trans here
      exact Or.inr ⟨d, d', by simp [here], by simp [here'], first⟩
    · have here' : d'.name ≠ key := fun same => here (first.name.symm.trans same)
      simpa [here, here'] using ih

theorem find?_others {entries : List Descriptor} {key : Text.Loose}
    (other : ¬ BelongsTo struct key) :
    (others struct entries).find? (·.name = key) = entries.find? (·.name = key) := by
  rw [others, List.find?_filter]
  refine congrArg (List.find? · entries) (funext fun d => ?_)
  by_cases same : d.name = key <;> simp [same, other]

/-- What does not belong to the struct is found in both registries or in none. -/
theorem Overrides.entry? (overrides : Overrides struct flag r r') {key : Text.Loose}
    (other : ¬ BelongsTo struct key) :
    r.entry? key = none ∧ r'.entry? key = none ∨
      ∃ d d', r.entry? key = some d ∧ r'.entry? key = some d' ∧ r.Alike struct flag d d' := by
  have found := find?_alike overrides.alike key
  rwa [find?_others other, find?_others other] at found

theorem Overrides.has_eq (overrides : Overrides struct flag r r') {key : Text.Loose}
    (other : ¬ BelongsTo struct key) : r'.has key = r.has key := by
  rcases overrides.entry? other with ⟨none, none'⟩ | ⟨d, d', found, found', _⟩
  · rw [has, has, none, none']
  · rw [has, has, found, found']
    rfl

theorem Overrides.has_struct (overrides : Overrides struct flag r r') : r'.has struct := by
  rw [has, overrides.primitive]
  rfl

/-- Where the second registry has no name of a struct and its signatures, it
has room for more entries that do not belong to it. -/
theorem Overrides.extend (overrides : Overrides struct flag r r') {more more' : List Descriptor}
    (alike : List.Forall₂ ((r.extend more).Alike struct flag) more more')
    (other : ∀ d ∈ more, ¬ BelongsTo struct d.name) (other' : ∀ d ∈ more', ¬ BelongsTo struct d.name) :
    Overrides struct flag (r.extend more) (r'.extend more') where
  primitive := by rw [entry?_extend, overrides.primitive, Option.some_or]
  bare d member belongs := by
    rcases List.mem_append.mp member with old | new
    · exact overrides.bare d old belongs
    · exact absurd belongs (other' d new)
  alike := by
    rw [extend_entries, extend_entries, others_append, others_append, others_of_not_belongsTo other,
      others_of_not_belongsTo other']
    exact List.rel_append (overrides.alike.imp fun _ _ same => same.extend more) alike

/-- The struct itself and its signatures may be registered where there is no override. -/
theorem Overrides.extend_left (overrides : Overrides struct flag r r') {more : List Descriptor}
    (all : ∀ d ∈ more, BelongsTo struct d.name) : Overrides struct flag (r.extend more) r' where
  primitive := overrides.primitive
  bare := overrides.bare
  alike := by
    rw [extend_entries, others_append, others_of_belongsTo all, List.append_nil]
    exact overrides.alike.imp fun _ _ same => same.extend more

end

theorem not_belongsTo_of_dotless {struct type : String} (dotless : '.' ∉ type.toList)
    (other : type ≠ struct) : ¬ BelongsTo struct type := by
  rintro (same | ⟨field, same⟩)
  · exact other (congrArg Text.Loose.text same)
  · rw [show type = ofSignature struct field from congrArg Text.Loose.text same,
      toList_ofSignature] at dotless
    simp at dotless

/-- The type of a field is named in the definition, or it is a signature that is new. -/
theorem Registration.type_cases {tags : Tags} {r : Registry} {block : StructBlock}
    (reg : Registration tags r block) {field : Field} (member : field ∈ reg.fields) :
    (field.type ∈ block.types ∧ r.has field.type) ∨ ∃ d ∈ reg.signatures, d.name = field.type := by
  obtain ⟨part, listed, rfl⟩ := List.mem_map.mp member
  obtain ⟨statement, written, reads⟩ := exists_reads_of_mem reg.reads part listed
  cases reads with
  | @direct type name read known =>
    have named : type ∈ block.types := List.mem_flatMap.mpr
      ⟨_, List.mem_filterMap.mpr ⟨statement, written, read⟩, List.mem_singleton_self _⟩
    have canonical := StructBlock.canonical_of_mem_types named
    refine Or.inl ⟨?_, known⟩
    rwa [canonical]
  | pointer read accepted some known returnKnown =>
    exact Or.inr ⟨_, List.mem_filterMap.mpr ⟨_, listed, rfl⟩, rfl⟩

section
variable {tags : Tags} {r r' : Registry} {struct : String} {flag : Bool} {block : StructBlock}
  (overrides : Overrides struct flag r r') (reg : Registration tags r block)
  (named : Text.isName struct.toList) (other : block.name ≠ struct)
  (dotless : ∀ type ∈ block.types, '.' ∉ type.toList)
include named other

theorem Registration.not_belongsTo_of_mem_added : ∀ d ∈ reg.added, ¬ BelongsTo struct d.name :=
  fun _ member belongs => other ((reg.belongsTo_of_mem_added member).unique belongs reg.named named)

/-- Any other struct is registered beside the override as well. -/
def Overrides.registration : Registration tags r' block :=
  reg.onto
    (fun type listed known => by
      rw [StructBlock.canonical_of_mem_types listed] at known ⊢
      by_cases same : type = struct
      · exact same ▸ overrides.has_struct
      · rwa [overrides.has_eq (not_belongsTo_of_dotless (dotless type listed) same)])
    (by
      have own : reg.struct ∈ reg.added := List.mem_append_right _ (List.mem_singleton_self _)
      exact (overrides.has_eq (reg.not_belongsTo_of_mem_added named other _ own)).trans reg.free)
    (fun d signed => by
      have own : d ∈ reg.added := List.mem_append_left _ signed
      exact (overrides.has_eq (reg.not_belongsTo_of_mem_added named other _ own)).trans
        (reg.fresh d signed))

/-- A field whose flag an override changes leads to the struct that is overridden. -/
theorem Overrides.transGen_of_field_ne {field : Field} (listed : field ∈ reg.fields)
    (differ : ((overrides.registration reg named other dotless).known.find? field.type).any
      (·.compatible) ≠ (reg.known.find? field.type).any (·.compatible)) :
    ∃ e, r.entry? struct = some e ∧ e.compatible ≠ flag ∧
      TransGen reg.registry.Uses reg.struct e := by
  obtain ⟨_, canonical⟩ := reg.field_known listed
  rw [find?_of_canonical canonical, find?_of_canonical canonical] at differ
  rcases reg.type_cases listed with ⟨typed, known⟩ | ⟨d, signed, called⟩
  · obtain ⟨e, found⟩ := Option.isSome_iff_exists.mp known
    have uses : reg.registry.Uses reg.struct e := by
      refine ⟨field, listed, ?_⟩
      rw [find?_of_canonical canonical, reg.registry_eq, entry?_extend, found, Option.some_or]
    rw [reg.known_eq, entry?_extend_of_has known, found, Registration.known_eq, entry?_extend] at differ
    by_cases same : field.type = struct
    · rw [same] at found differ
      rw [overrides.primitive] at differ
      exact ⟨e, found, fun agree => differ agree.symm, .single uses⟩
    · rcases overrides.entry? (not_belongsTo_of_dotless (dotless _ typed) same) with
        ⟨none, _⟩ | ⟨d, d', found', image, alike⟩
      · cases found.symm.trans none
      · cases found.symm.trans found'
        rw [image] at differ
        obtain ⟨last, atStruct, flagged, reach⟩ := alike.reaches differ
        exact ⟨last, atStruct, flagged, .head uses (TransGen.mono
          (fun _ _ (uses : r.Uses _ _) => uses.extend reg.added) _ _ reach)⟩
  · have free := reg.fresh d signed
    have free' := (overrides.registration reg named other dotless).fresh d signed
    rw [called] at free free'
    rw [reg.known_eq, Registration.known_eq, entry?_extend_of_not_has free,
      entry?_extend_of_not_has free'] at differ
    exact absurd rfl differ

theorem Overrides.alike_struct : reg.registry.Alike struct flag reg.struct
    (overrides.registration reg named other dotless).struct where
  name := rfl
  shape := rfl
  reaches differ := by
    by_contra unreached
    refine differ ?_
    change List.all _ _ = List.all _ _
    rw [Bool.eq_iff_iff, List.all_eq_true, List.all_eq_true]
    refine forall₂_congr fun field listed => Bool.eq_iff_iff.mp (by_contra fun other' => ?_)
    obtain ⟨e, found, flagged, reach⟩ :=
      overrides.transGen_of_field_ne reg named other dotless listed other'
    refine unreached ⟨e, ?_, flagged, reach⟩
    rw [reg.registry_eq, entry?_extend, found, Option.some_or]

theorem Overrides.register : Overrides struct flag reg.registry
    (overrides.registration reg named other dotless).registry := by
  refine overrides.extend (List.rel_append ?_ (.cons ?_ .nil))
    (reg.not_belongsTo_of_mem_added named other)
    ((overrides.registration reg named other dotless).not_belongsTo_of_mem_added named other)
  · exact List.forall₂_same.mpr fun d _ => Alike.refl _ _ _ d
  · exact overrides.alike_struct reg named other dotless

end

end Registry

end HeaderTypes
