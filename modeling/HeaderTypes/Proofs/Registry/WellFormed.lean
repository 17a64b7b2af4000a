import HeaderTypes.Proofs.Registry.Growth

namespace HeaderTypes

/-- The types that a struct or a signature refers to. -/
def Descriptor.uses (d : Descriptor) : List String :=
  match d.shape with
  | .struct fields => fields.map (·.type)
  | .signature returns arguments => arguments ++ returns.toList
  | _ => []

namespace Registry
open Relation

/-- Every entry meets a condition on the entries before it. -/
def EachAfter (condition : List Descriptor → Descriptor → Prop) (entries : List Descriptor) : Prop :=
  ∀ before d after, entries = before ++ d :: after → condition before d

theorem eachAfter_append {condition : List Descriptor → Descriptor → Prop}
    {first last : List Descriptor} (early : EachAfter condition first)
    (late : EachAfter (fun before => condition (first ++ before)) last) :
    EachAfter condition (first ++ last) := by
  intro before d after split
  rcases List.append_eq_append_iff.mp split with ⟨between, rfl, same⟩ | ⟨between, rfl, same⟩
  · exact late between d after same
  · cases between with
    | nil => simpa only [List.append_nil] using late [] d after same.symm
    | cons e between =>
      cases same
      exact early before d between rfl

theorem EachAfter.mono {condition weaker : List Descriptor → Descriptor → Prop}
    {entries : List Descriptor} (each : EachAfter condition entries)
    (imp : ∀ before, ∀ d ∈ entries, condition before d → weaker before d) :
    EachAfter weaker entries := by
  intro before d after split
  exact imp before d (split ▸ List.mem_append_right _ List.mem_cons_self) (each before d after split)

theorem eachAfter_singleton {condition : List Descriptor → Descriptor → Prop} {d : Descriptor}
    (holds : condition [] d) : EachAfter condition [d] := by
  intro before e after split
  cases before with
  | nil =>
    cases split
    exact holds
  | cons first before => simp at split

theorem eachAfter_of_forall {condition : List Descriptor → Descriptor → Prop}
    {entries : List Descriptor} (all : ∀ d ∈ entries, ∀ before, condition before d) :
    EachAfter condition entries := by
  intro before d after split
  exact all d (split ▸ List.mem_append_right _ List.mem_cons_self) before

/-- The signature under the name of a struct and of one of its fields, if that
is the type of the field. -/
def declaredBy (r : Registry) (struct : Descriptor) (field : Field) : Option Descriptor :=
  if field.type = TypeName.ofSignature struct.name.text field.name then
    (r.entry? field.type).filter (·.isSignature)
  else none

/-- What holds of every registry that headers have filled. -/
structure WellFormed (r : Registry) : Prop where
  distinct : (r.entries.map (·.name)).Nodup
  canonical : ∀ d ∈ r.entries, TypeName.key d.name = d.name
  kinds : ∀ d ∈ r.entries, d.shape = .primitive ∨ d.isStruct ∨ d.isSignature
  /-- Structs have C names. -/
  named : ∀ d ∈ r.entries, d.isStruct → ∃ name : String, d.name = name ∧ Text.isName name.toList
  primitivesFirst : EachAfter (fun before d =>
    d.shape = .primitive → ∀ e ∈ before, e.shape = .primitive) r.entries
  /-- Every type that is referred to is registered before what refers to it. -/
  known : EachAfter (fun before d =>
    ∀ type ∈ d.uses, ∃ e ∈ before, e.name = type) r.entries
  /-- No signature is plain data, and each belongs to a field of exactly one struct. -/
  owned : ∀ d ∈ r.entries, d.isSignature → d.compatible = false ∧
    ∃ struct ∈ r.entries, struct.isStruct ∧
      (∃ name : String, d.name = TypeName.ofSignature struct.name.text name ∧
        ⟨TypeName.ofSignature struct.name.text name, name⟩ ∈ struct.fields) ∧
      ∀ other ∈ r.entries, other.isStruct →
        ∀ name : String, d.name = TypeName.ofSignature other.name.text name → other = struct
  /-- The signatures of a struct stand right before it, in the order of its fields. -/
  declared : EachAfter (fun before d =>
    d.isStruct → ∃ earlier, before = earlier ++ d.fields.filterMap (r.declaredBy d)) r.entries

theorem wellFormed_empty : WellFormed {} where
  distinct := List.nodup_nil
  canonical := nofun
  kinds := nofun
  named := nofun
  primitivesFirst := eachAfter_of_forall nofun
  known := eachAfter_of_forall nofun
  owned := nofun
  declared := eachAfter_of_forall nofun

theorem mem_uses_of_mem_fields {d : Descriptor} {field : Field} (listed : field ∈ d.fields) :
    field.type ∈ d.uses := by
  unfold Descriptor.fields at listed
  split at listed
  · rename_i shape
    simp only [Descriptor.uses, shape]
    exact List.mem_map_of_mem listed
  · cases listed

/-- The type of a field is found among the entries before the struct. -/
theorem WellFormed.find?_field {r : Registry} (wellFormed : r.WellFormed)
    {before after : List Descriptor} {d : Descriptor} (split : r.entries = before ++ d :: after)
    {field : Field} (listed : field ∈ d.fields) :
    ∃ e ∈ before, e.name = field.type ∧ TypeName.canonical field.type = field.type ∧
      r.find? field.type = some e := by
  obtain ⟨e, early, same⟩ := wellFormed.known before d after split _ (mem_uses_of_mem_fields listed)
  have member : e ∈ r.entries := split ▸ List.mem_append_left _ early
  have canonical : TypeName.canonical field.type = field.type := by
    have key := wellFormed.canonical e member
    rw [same] at key
    exact congrArg Text.Loose.text key
  refine ⟨e, early, same, canonical, ?_⟩
  rw [find?_of_canonical canonical, ← same]
  exact entry?_of_mem wellFormed.distinct member

theorem WellFormed.has_field {r : Registry} (wellFormed : r.WellFormed) {d : Descriptor}
    (member : d ∈ r.entries) {field : Field} (listed : field ∈ d.fields) :
    r.has field.type ∧ TypeName.canonical field.type = field.type := by
  obtain ⟨before, after, split⟩ := List.append_of_mem member
  obtain ⟨e, early, same, canonical, _⟩ := wellFormed.find?_field split listed
  exact ⟨has_iff.mpr ⟨e, split ▸ List.mem_append_left _ early, same⟩, canonical⟩

/-- What a field of an entry declares does not change when more is registered. -/
theorem WellFormed.declaredBy_extend {r : Registry} (wellFormed : r.WellFormed)
    {d : Descriptor} (member : d ∈ r.entries) (more : List Descriptor) :
    d.fields.filterMap (declaredBy (r.extend more) d) = d.fields.filterMap (r.declaredBy d) := by
  refine List.filterMap_congr fun field listed => ?_
  unfold declaredBy
  rw [entry?_extend_of_has (wellFormed.has_field member listed).1]

theorem WellFormed.primitive {r : Registry} (wellFormed : r.WellFormed) (base : r.Primitive)
    {name : Text.Loose} (compatible : Bool) (free : r.has name = false)
    (canonical : TypeName.key name = name) :
    (r.extend [.primitive name compatible]).WellFormed where
  distinct := by
    refine distinct_extend wellFormed.distinct (List.pairwise_singleton _ _) fun d member => ?_
    cases List.mem_singleton.mp member
    exact free
  canonical d member := by
    rcases List.mem_append.mp member with old | new
    · exact wellFormed.canonical d old
    · cases List.mem_singleton.mp new
      exact canonical
  kinds d member := by
    rcases List.mem_append.mp member with old | new
    · exact wellFormed.kinds d old
    · cases List.mem_singleton.mp new
      exact Or.inl rfl
  named d member struct := by
    rcases List.mem_append.mp member with old | new
    · exact wellFormed.named d old struct
    · cases List.mem_singleton.mp new
      cases struct
  primitivesFirst := by
    refine eachAfter_append wellFormed.primitivesFirst (eachAfter_singleton fun _ e member => ?_)
    rw [List.append_nil] at member
    exact base e member
  known := eachAfter_append wellFormed.known (eachAfter_singleton nofun)
  owned d member signature := by
    rcases List.mem_append.mp member with old | new
    · simp [Descriptor.isSignature, base d old] at signature
    · cases List.mem_singleton.mp new
      cases signature
  declared := by
    refine eachAfter_append (eachAfter_of_forall fun d member _ struct => ?_)
      (eachAfter_singleton nofun)
    simp [Descriptor.isStruct, base d member] at struct

namespace Registration
variable {tags : Tags} {r : Registry} {block : StructBlock} (reg : Registration tags r block)

theorem distinct_registry (distinct : (r.entries.map (·.name)).Nodup) :
    (reg.registry.entries.map (·.name)).Nodup := by
  have known : (reg.known.entries.map (·.name)).Nodup :=
    distinct_extend distinct reg.distinct reg.fresh
  rw [registry, ← extend_extend]
  refine distinct_extend known (List.pairwise_singleton _ _) fun d member => ?_
  cases List.mem_singleton.mp member
  exact reg.free_known

theorem mem_registry {d : Descriptor} (member : d ∈ reg.registry.entries) :
    d ∈ r.entries ∨ d ∈ reg.signatures ∨ d = reg.struct := by
  rcases List.mem_append.mp member with old | new
  · exact Or.inl old
  · exact Or.inr ((List.mem_append.mp new).imp_right List.mem_singleton.mp)

end Registration

/-- The struct after which a signature is named is registered. -/
theorem WellFormed.has_owner {r : Registry} (wellFormed : r.WellFormed) {d : Descriptor}
    (member : d ∈ r.entries) (signature : d.isSignature) {owner field : String}
    (named : Text.isName owner.toList) (key : d.name = TypeName.ofSignature owner field) :
    r.has owner := by
  obtain ⟨_, struct, registered, isStruct, ⟨name, key', _⟩, _⟩ := wellFormed.owned d member signature
  obtain ⟨text, same, named'⟩ := wellFormed.named struct registered isStruct
  rw [key, same] at key'
  obtain ⟨rfl, _⟩ := TypeName.ofSignature_inj named named' (congrArg Text.Loose.text key')
  exact has_iff.mpr ⟨struct, registered, same⟩

namespace Registration
variable {tags : Tags} {r : Registry} {block : StructBlock} (reg : Registration tags r block)

/-- A field of a type that was there before declares nothing of its own. -/
theorem declaredBy_of_known (wellFormed : r.WellFormed) {field : Field}
    (known : r.has field.type) : declaredBy reg.registry reg.struct field = none := by
  unfold declaredBy
  split
  · rename_i own
    rw [registry, entry?_extend_of_has known]
    refine Option.filter_eq_none_iff.mpr fun d found signature => ?_
    obtain ⟨member, same⟩ := mem_of_entry? found
    rw [own] at same
    exact Bool.false_ne_true
      (reg.free.symm.trans (wellFormed.has_owner member signature reg.named same))
  · rfl

theorem declared_eq_signatures (wellFormed : r.WellFormed) :
    reg.fields.filterMap (declaredBy reg.registry reg.struct) = reg.signatures := by
  rw [fields, List.filterMap_map, signatures]
  refine List.filterMap_congr fun part member => ?_
  have signed : ∀ d ∈ part.2, d ∈ reg.registry.entries := fun d same =>
    List.mem_append_right _ (List.mem_append_left _ (List.mem_filterMap.mpr ⟨part, member, same⟩))
  cases reg.part_of_mem member with
  | direct known canonical => exact reg.declaredBy_of_known wellFormed known
  | @pointer name returns arguments named known returnKnown =>
    have found : reg.registry.entry? (TypeName.ofSignature block.name name) =
        some (.signature (TypeName.ofSignature block.name name) returns arguments) :=
      entry?_of_mem (reg.distinct_registry wellFormed.distinct) (signed _ rfl)
    have owner : reg.struct.name.text = block.name := rfl
    simp only [Function.comp_apply, declaredBy, owner, if_true, found]
    rfl

theorem has_of_mem_uses {d : Descriptor} (member : d ∈ reg.signatures) {type : String}
    (used : type ∈ d.uses) : r.has type := by
  obtain ⟨name, returns, arguments, _, rfl, _, known, returnKnown⟩ := reg.signature_of_mem member
  rcases List.mem_append.mp used with argument | returned
  · exact known type argument
  · exact returnKnown type (Option.mem_toList.mp returned)

/-- The new struct does not take over a signature that was there before. -/
theorem owner_of_mem (wellFormed : r.WellFormed) {d : Descriptor} (old : d ∈ r.entries)
    (signature : d.isSignature) {other : Descriptor} (member : other ∈ reg.registry.entries)
    (isStruct : other.isStruct) {name : String}
    (key : d.name = TypeName.ofSignature other.name.text name) : other ∈ r.entries := by
  rcases reg.mem_registry member with known | new | rfl
  · exact known
  · exact absurd isStruct (reg.not_isStruct_of_mem_signatures new)
  · exact absurd (wellFormed.has_owner old signature reg.named key) (Bool.eq_false_iff.mp reg.free)

/-- A new signature is named after the new struct and after no other. -/
theorem owner_of_mem_signatures (wellFormed : r.WellFormed) {d : Descriptor}
    (new : d ∈ reg.signatures) {other : Descriptor} (member : other ∈ reg.registry.entries)
    (isStruct : other.isStruct) {name : String}
    (key : d.name = TypeName.ofSignature other.name.text name) : other = reg.struct := by
  rcases reg.mem_registry member with known | signature | rfl
  · obtain ⟨own, returns, arguments, _, rfl, _⟩ := reg.signature_of_mem new
    obtain ⟨text, same, named⟩ := wellFormed.named other known isStruct
    rw [same] at key
    obtain ⟨rfl, _⟩ := TypeName.ofSignature_inj reg.named named (congrArg Text.Loose.text key)
    exact absurd same (not_has_iff.mp reg.free other known)
  · exact absurd isStruct (reg.not_isStruct_of_mem_signatures signature)
  · rfl

theorem wellFormed (wellFormed : r.WellFormed) : reg.registry.WellFormed where
  distinct := reg.distinct_registry wellFormed.distinct
  canonical d member := by
    rcases reg.mem_registry member with old | new | rfl
    · exact wellFormed.canonical d old
    · exact reg.key_of_mem_signatures new
    · exact reg.key_struct
  kinds d member := by
    rcases reg.mem_registry member with old | new | rfl
    · exact wellFormed.kinds d old
    · obtain ⟨name, returns, arguments, _, rfl, _⟩ := reg.signature_of_mem new
      exact Or.inr (Or.inr rfl)
    · exact Or.inr (Or.inl rfl)
  named d member isStruct := by
    rcases reg.mem_registry member with old | new | rfl
    · exact wellFormed.named d old isStruct
    · exact absurd isStruct (reg.not_isStruct_of_mem_signatures new)
    · exact ⟨block.name, rfl, reg.named⟩
  primitivesFirst := by
    refine eachAfter_append wellFormed.primitivesFirst (eachAfter_of_forall ?_)
    intro d member before primitive
    rcases List.mem_append.mp member with new | last
    · obtain ⟨name, returns, arguments, _, rfl, _⟩ := reg.signature_of_mem new
      cases primitive
    · cases List.mem_singleton.mp last
      cases primitive
  known := by
    refine eachAfter_append wellFormed.known (eachAfter_append (eachAfter_of_forall ?_)
      (eachAfter_singleton ?_))
    · intro d member before type used
      obtain ⟨e, old, same⟩ := has_iff.mp (reg.has_of_mem_uses member used)
      exact ⟨e, List.mem_append_left _ old, same⟩
    · intro type used
      obtain ⟨field, member, rfl⟩ := List.mem_map.mp used
      rw [List.append_nil]
      exact has_iff.mp (reg.field_known member).1
  owned d member signature := by
    rcases reg.mem_registry member with old | new | rfl
    · obtain ⟨plain, struct, registered, isStruct, field, only⟩ := wellFormed.owned d old signature
      refine ⟨plain, struct, List.mem_append_left _ registered, isStruct, field, ?_⟩
      intro other member' isStruct' name key
      exact only other (reg.owner_of_mem wellFormed old signature member' isStruct' key) isStruct'
        name key
    · have last : reg.struct ∈ reg.registry.entries :=
        List.mem_append_right _ (List.mem_append_right _ (List.mem_singleton_self _))
      have only : ∀ other ∈ reg.registry.entries, other.isStruct → ∀ name : String,
          d.name = TypeName.ofSignature other.name.text name → other = reg.struct :=
        fun _ member' isStruct' _ key =>
          reg.owner_of_mem_signatures wellFormed new member' isStruct' key
      obtain ⟨name, returns, arguments, named, rfl, field, _⟩ := reg.signature_of_mem new
      exact ⟨rfl, reg.struct, last, rfl, ⟨name, rfl, field⟩, only⟩
    · cases signature
  declared := by
    refine eachAfter_append (wellFormed.declared.mono fun before d member here isStruct => ?_)
      (eachAfter_append (eachAfter_of_forall fun d member before isStruct => ?_)
        (eachAfter_singleton fun _ => ?_))
    · rw [registry, wellFormed.declaredBy_extend member]
      exact here isStruct
    · exact absurd isStruct (reg.not_isStruct_of_mem_signatures member)
    · refine ⟨r.entries, ?_⟩
      rw [List.append_nil]
      exact congrArg _ (reg.declared_eq_signatures wellFormed).symm

end Registration

theorem Grows.wellFormed {r later : Registry} (grows : Grows r later) (wellFormed : r.WellFormed) :
    later.WellFormed := by
  cases grows with
  | primitive compatible base free canonical =>
    exact wellFormed.primitive base compatible free canonical
  | struct reg => exact reg.wellFormed wellFormed
  | freeze =>
    exact ⟨wellFormed.distinct, wellFormed.canonical, wellFormed.kinds, wellFormed.named,
      wellFormed.primitivesFirst, wellFormed.known, wellFormed.owned, wellFormed.declared⟩

theorem WellFormed.of_grows {r later : Registry} (wellFormed : r.WellFormed)
    (grows : ReflTransGen Grows r later) : later.WellFormed := by
  induction grows with
  | refl => exact wellFormed
  | tail _ step ih => exact step.wellFormed ih

end Registry

end HeaderTypes
