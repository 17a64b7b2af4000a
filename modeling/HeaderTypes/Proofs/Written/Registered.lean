import HeaderTypes.Proofs.Registry.Registration
import HeaderTypes.Proofs.Written.Header
import Mathlib.Data.List.Nodup

namespace HeaderTypes.Written
open Text Registry

namespace Member

/-- The field as it is registered. -/
def field (struct : String) : Member → Field
  | direct type name => ⟨type.name, name.text⟩
  | pointer _ _ name _ => ⟨TypeName.ofSignature struct name.text, name.text⟩

/-- The signature that is registered for a function pointer. -/
def signature? (struct : String) : Member → Option Descriptor
  | direct _ _ => none
  | pointer returns _ name parameters =>
    some (.signature (TypeName.ofSignature struct name.text)
      (if returns.name = TypeName.void then none else some returns.name)
      (parameters.map (·.1.name)))

/-- The type of the field has a compatible entry. A function pointer has none. -/
def isPlain (known : List Descriptor) : Member → Bool
  | direct type _ => (known.find? (·.name = (type.name : Loose))).any (·.compatible)
  | pointer _ _ _ _ => false

def tag? : Member → Option String
  | direct _ _ => none
  | pointer _ tag _ _ => some tag.text

def pointerName? : Member → Option String
  | direct _ _ => none
  | pointer _ _ name _ => some name.text

/-- All types that a field names are among some names. A return type may also be `void`. -/
def Refers (names : List String) : Member → Prop
  | direct type _ => type.name ∈ names
  | pointer returns _ _ parameters =>
    (returns.name = TypeName.void ∨ returns.name ∈ names) ∧ ∀ p ∈ parameters, p.1.name ∈ names

instance (names : List String) : DecidablePred (Refers names) := fun m =>
  match m with
  | direct type _ => inferInstanceAs (Decidable (type.name ∈ names))
  | pointer returns _ _ parameters =>
    inferInstanceAs (Decidable ((returns.name = TypeName.void ∨ returns.name ∈ names) ∧
      ∀ p ∈ parameters, p.1.name ∈ names))

end Member

/-- What a struct adds to the entries before it: the signatures of its function
pointers and then the struct. -/
def Struct.entries (known : List Descriptor) (d : Struct) : List Descriptor :=
  d.members.filterMap (·.signature? d.name.text) ++
    [.struct d.name.text (d.members.map (·.field d.name.text)) (d.members.all (·.isPlain known))]

/-- The entries of a registry to which structs are added in their order. -/
def registered : (known : List Descriptor) → List Struct → List Descriptor
  | known, [] => known
  | known, d :: ds => registered (known ++ d.entries known) ds

/-- Structs of which each has a new name and refers to names before its own. The
function pointers of one struct have different names. -/
inductive Ordered : (names : List String) → List Struct → Prop
  | nil {names} : Ordered names []
  | cons {names d ds} : d.name.text ∉ names → (∀ m ∈ d.members, m.Refers names) →
      (d.members.filterMap (·.pointerName?)).Nodup → Ordered (names ++ [d.name.text]) ds →
      Ordered names (d :: ds)

/-- The names under which a registry has entries that are no signatures. They
hold no dot, unlike the names of signatures. -/
structure Covers (r : Registry) (names : List String) : Prop where
  known : ∀ name ∈ names, r.has name
  listed : ∀ e ∈ r.entries,
    (∃ name ∈ names, e.name = name ∧ '.' ∉ name.toList) ∨
      ∃ owner ∈ names, ∃ field : String, isName owner.toList ∧
        e.name = TypeName.ofSignature owner field

/-- A name without a dot is registered as one of the names or not at all. -/
theorem Covers.has_eq_false_of_dotless {r : Registry} {names : List String} (covers : Covers r names)
    {name : String} (dotless : '.' ∉ name.toList) (other : name ∉ names) : r.has name = false := by
  refine not_has_iff.mpr fun e member same => ?_
  rcases covers.listed e member with ⟨known, listed, called, _⟩ | ⟨owner, _, field, _, called⟩
  · cases congrArg Text.Loose.text (same.symm.trans called)
    exact other listed
  · have text : name = TypeName.ofSignature owner field :=
      congrArg Text.Loose.text (same.symm.trans called)
    refine dotless ?_
    rw [text, TypeName.toList_ofSignature]
    exact List.mem_append_right _ List.mem_cons_self

theorem Covers.has_eq_false {r : Registry} {names : List String} (covers : Covers r names)
    {name : Identifier} (other : name.text ∉ names) : r.has name.text = false :=
  covers.has_eq_false_of_dotless (not_mem_of_isName name.named rfl) other

/-- The signatures of a new struct have new names. -/
theorem Covers.has_ofSignature {r : Registry} {names : List String} (covers : Covers r names)
    {name : Identifier} (other : name.text ∉ names) (field : String) :
    r.has (TypeName.ofSignature name.text field) = false := by
  refine not_has_iff.mpr fun e member same => ?_
  rcases covers.listed e member with ⟨known, _, called, dotless⟩ | ⟨owner, listed, field', named, called⟩
  · refine dotless ?_
    have text := congrArg Text.Loose.text (called.symm.trans same)
    rw [show known = TypeName.ofSignature name.text field from text]
    simp [TypeName.toList_ofSignature]
  · obtain ⟨rfl, _⟩ := TypeName.ofSignature_inj named name.named
      (congrArg Text.Loose.text (called.symm.trans same))
    exact other listed

theorem signature?_eq_some {struct : String} {m : Member} {e : Descriptor}
    (signed : m.signature? struct = some e) :
    ∃ name returns arguments, m.pointerName? = some name ∧
      e = .signature (TypeName.ofSignature struct name) returns arguments := by
  cases m with
  | direct type name => cases signed
  | pointer returns tag name parameters =>
    cases signed
    exact ⟨_, _, _, rfl, rfl⟩

/-- The names of the signatures of a struct, by the names of its function pointers. -/
theorem map_name_signatures (struct : String) (members : List Member) :
    (members.filterMap (·.signature? struct)).map (·.name) =
      (members.filterMap (·.pointerName?)).map fun name =>
        (TypeName.ofSignature struct name : Loose) := by
  rw [List.map_filterMap, List.map_filterMap]
  refine List.filterMap_congr fun m _ => ?_
  cases m <;> rfl

theorem map_canonical_names (parameters : List (TypeExpr × Identifier)) :
    (parameters.map (·.1.name)).map TypeName.canonical = parameters.map (·.1.name) := by
  rw [List.map_map]
  exact List.map_congr_left fun p _ => p.1.canonical_name

/-- A statement of a field is read as the field and its signature. -/
theorem reads_of_declaration {tags : Tags} {r : Registry} {struct statement : String} {m : Member}
    (read : Declaration.ofStatement? statement = some m.declaration)
    {names : List String} (refers : m.Refers names) (known : ∀ name ∈ names, r.has name)
    (accepted : ∀ tag ∈ m.tag?, tags.accept tag) :
    Reads tags r struct statement (m.field struct, m.signature? struct) := by
  cases m with
  | direct type name =>
    have has : r.has (TypeName.canonical type.name) := by
      rw [type.canonical_name]
      exact known _ refers
    have reads : Reads tags r struct statement _ := .direct read has
    rwa [type.canonical_name] at reads
  | pointer returns tag name parameters =>
    have arguments : ∀ type ∈ parameters.map (·.1.name), r.has (TypeName.canonical type) := by
      intro type member
      obtain ⟨p, listed, rfl⟩ := List.mem_map.mp member
      rw [p.1.canonical_name]
      exact known _ (refers.2 p listed)
    have returned : returns.name ≠ TypeName.void → r.has (TypeName.canonical returns.name) := by
      intro other
      rw [returns.canonical_name]
      exact known _ (refers.1.resolve_left other)
    have reads : Reads tags r struct statement _ :=
      .pointer read (accepted _ rfl) returns.name_ne_empty arguments returned
    rwa [returns.canonical_name, map_canonical_names] at reads

theorem reads_of_states {tags : Tags} {r : Registry} {struct : String} {members : List Member}
    {statements : List String} (stated : States members statements) {names : List String}
    (refers : ∀ m ∈ members, m.Refers names) (known : ∀ name ∈ names, r.has name)
    (accepted : ∀ m ∈ members, ∀ tag ∈ m.tag?, tags.accept tag) :
    List.Forall₂ (Reads tags r struct) statements
      (members.map fun m => (m.field struct, m.signature? struct)) := by
  induction stated with
  | nil => exact .nil
  | cons read _ ih =>
    obtain ⟨refer, refers⟩ := List.forall_mem_cons.mp refers
    obtain ⟨accept, accepted⟩ := List.forall_mem_cons.mp accepted
    exact .cons (reads_of_declaration read refer known accept) (ih refers accepted)

theorem filterMap_parts (struct : String) (members : List Member) :
    (members.map fun m => (m.field struct, m.signature? struct)).filterMap (·.2) =
      members.filterMap (·.signature? struct) := by
  rw [List.filterMap_map]
  rfl

/-- The definition of a struct can be registered where all names before its own are. -/
theorem registration_of_describes {tags : Tags} {r : Registry} {names : List String} {d : Struct}
    {body : String} {line : Nat} (stated : States d.members (Declaration.statements body))
    (covers : Covers r names) (new : d.name.text ∉ names)
    (refers : ∀ m ∈ d.members, m.Refers names)
    (distinct : (d.members.filterMap (·.pointerName?)).Nodup)
    (accepted : ∀ m ∈ d.members, ∀ tag ∈ m.tag?, tags.accept tag) :
    ∃ reg : Registration tags r ⟨d.name.text, body, line⟩,
      reg.parts = d.members.map fun m => (m.field d.name.text, m.signature? d.name.text) := by
  refine ⟨⟨_, d.name.named, covers.has_eq_false new,
    reads_of_states stated refers covers.known accepted, ?_, ?_⟩, rfl⟩
  · intro e member
    rw [filterMap_parts] at member
    obtain ⟨m, _, signed⟩ := List.mem_filterMap.mp member
    obtain ⟨name, returns, arguments, _, rfl⟩ := signature?_eq_some signed
    exact covers.has_ofSignature new name
  · rw [filterMap_parts, map_name_signatures]
    refine List.Nodup.map (fun name other same => ?_) distinct
    exact (TypeName.ofSignature_inj d.name.named d.name.named (congrArg Loose.text same)).2

section
variable {tags : Tags} {r : Registry} {names : List String} {d : Struct} {body : String} {line : Nat}
  {reg : Registration tags r ⟨d.name.text, body, line⟩}
  (parts : reg.parts = d.members.map fun m => (m.field d.name.text, m.signature? d.name.text))
include parts

theorem signatures_of_parts : reg.signatures = d.members.filterMap (·.signature? d.name.text) := by
  rw [Registration.signatures, parts, filterMap_parts]

theorem fields_of_parts : reg.fields = d.members.map (·.field d.name.text) := by
  rw [Registration.fields, parts, List.map_map]
  rfl

/-- A field of a new struct is compatible when it names a compatible entry. -/
theorem any_compatible_of_parts (covers : Covers r names) (new : d.name.text ∉ names)
    (refers : ∀ m ∈ d.members, m.Refers names) {m : Member} (member : m ∈ d.members) :
    ((reg.known.find? (m.field d.name.text).type).any (·.compatible)) = m.isPlain r.entries := by
  have listed : m.field d.name.text ∈ reg.fields := by
    rw [fields_of_parts parts]
    exact List.mem_map_of_mem member
  rw [find?_of_canonical (reg.field_known listed).2]
  cases m with
  | direct type name =>
    have known := covers.known _ (refers _ member)
    rw [Registration.known, Member.field, entry?_extend_of_has known]
    rfl
  | pointer returns tag name parameters =>
    rw [Registration.known, Member.field,
      entry?_extend_of_not_has (covers.has_ofSignature new name.text), Member.isPlain]
    cases found : reg.signatures.find?
        (·.name = (TypeName.ofSignature d.name.text name.text : Loose)) with
    | none => rfl
    | some e =>
      obtain ⟨_, _, _, _, rfl, _⟩ := reg.signature_of_mem (List.mem_of_find?_eq_some found)
      rfl

theorem registry_of_parts (covers : Covers r names) (new : d.name.text ∉ names)
    (refers : ∀ m ∈ d.members, m.Refers names) : reg.registry = r.extend (d.entries r.entries) := by
  have compatible : reg.compatible = d.members.all (·.isPlain r.entries) := by
    rw [Registration.compatible, fields_of_parts parts, List.all_map, Bool.eq_iff_iff,
      List.all_eq_true, List.all_eq_true]
    refine forall₂_congr fun m member => ?_
    rw [Function.comp_apply, any_compatible_of_parts parts covers new refers member]
  rw [Registration.registry, Registration.struct, signatures_of_parts parts, fields_of_parts parts,
    compatible]
  rfl

end

/-- A registry has one name more when all new entries belong to it. -/
theorem Covers.append {r : Registry} {names : List String} (covers : Covers r names) {name : String}
    {more : List Descriptor} (known : (r.extend more).has name)
    (listed : ∀ e ∈ more, e.name = name ∧ '.' ∉ name.toList ∨
      ∃ field : String, isName name.toList ∧ e.name = TypeName.ofSignature name field) :
    Covers (r.extend more) (names ++ [name]) where
  known other member := by
    rcases List.mem_append.mp member with old | new
    · exact has_extend.mpr (Or.inl (covers.known other old))
    · exact List.mem_singleton.mp new ▸ known
  listed e member := by
    rcases List.mem_append.mp member with old | added
    · exact (covers.listed e old).imp
        (fun ⟨name, listed, called⟩ => ⟨name, List.mem_append_left _ listed, called⟩)
        (fun ⟨owner, listed, called⟩ => ⟨owner, List.mem_append_left _ listed, called⟩)
    · have here : name ∈ names ++ [name] := List.mem_append_right _ (List.mem_singleton_self _)
      exact (listed e added).imp (fun called => ⟨name, here, called⟩)
        fun signature => ⟨name, here, signature⟩

/-- A struct adds its own name to those of a registry. -/
theorem Covers.extend {r : Registry} {names : List String} (covers : Covers r names) (d : Struct) :
    Covers (r.extend (d.entries r.entries)) (names ++ [d.name.text]) := by
  refine covers.append ?_ fun e added => ?_
  · exact has_extend.mpr (Or.inr ⟨_, List.mem_append_right _ (List.mem_singleton_self _), rfl⟩)
  · rcases List.mem_append.mp added with signed | struct
    · obtain ⟨m, _, signed⟩ := List.mem_filterMap.mp signed
      obtain ⟨name, returns, arguments, _, rfl⟩ := signature?_eq_some signed
      exact Or.inr ⟨name, d.name.named, rfl⟩
    · cases List.mem_singleton.mp struct
      exact Or.inl ⟨rfl, not_mem_of_isName d.name.named rfl⟩

end HeaderTypes.Written
