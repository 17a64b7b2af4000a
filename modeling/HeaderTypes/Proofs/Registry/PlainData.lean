import HeaderTypes.Proofs.Registry.WellFormed

namespace HeaderTypes.Registry
open Relation

/-- A struct has a field of a registered type. -/
def Uses (r : Registry) (d e : Descriptor) : Prop :=
  ∃ field ∈ d.fields, r.find? field.type = some e

/-- All that a type is made of in the end is plain data: whatever is no struct
among the types that are reached along fields is a compatible primitive. -/
def Plain (r : Registry) (d : Descriptor) : Prop :=
  ∀ e, ReflTransGen r.Uses d e → e.isStruct = false → e.shape = .primitive ∧ e.compatible = true

/-- A struct is compatible when the types of its own fields are. -/
def Flagged (r : Registry) : Prop :=
  ∀ d ∈ r.entries, d.isStruct → (d.compatible = true ↔ ∀ e, r.Uses d e → e.compatible = true)

theorem flagged_empty : Flagged {} := nofun

theorem not_uses_of_not_struct {r : Registry} {d e : Descriptor} (other : d.isStruct = false) :
    ¬ r.Uses d e := by
  rintro ⟨field, listed, _⟩
  unfold Descriptor.fields at listed
  split at listed
  · rename_i shape
    simp [Descriptor.isStruct, shape] at other
  · cases listed

/-- What is used stands before what uses it. -/
theorem WellFormed.mem_of_uses {r : Registry} (wellFormed : r.WellFormed)
    {before after : List Descriptor} {d e : Descriptor} (split : r.entries = before ++ d :: after)
    (uses : r.Uses d e) : e ∈ before := by
  obtain ⟨field, listed, found⟩ := uses
  obtain ⟨e', early, _, _, found'⟩ := wellFormed.find?_field split listed
  cases found.symm.trans found'
  exact early

theorem WellFormed.uses_extend_iff {r : Registry} (wellFormed : r.WellFormed) {d e : Descriptor}
    (member : d ∈ r.entries) (more : List Descriptor) : (r.extend more).Uses d e ↔ r.Uses d e := by
  have same : ∀ field ∈ d.fields, (r.extend more).find? field.type = r.find? field.type := by
    intro field listed
    obtain ⟨known, canonical⟩ := wellFormed.has_field member listed
    rw [find?_of_canonical canonical, find?_of_canonical canonical, entry?_extend_of_has known]
  constructor
  · rintro ⟨field, listed, found⟩
    exact ⟨field, listed, (same field listed).symm.trans found⟩
  · rintro ⟨field, listed, found⟩
    exact ⟨field, listed, (same field listed).trans found⟩

theorem Registration.compatible_iff {tags : Tags} {r : Registry} {block : StructBlock}
    (reg : Registration tags r block) :
    reg.compatible = true ↔ ∀ e, reg.registry.Uses reg.struct e → e.compatible = true := by
  have same : ∀ field ∈ reg.fields, ∃ e, reg.known.find? field.type = some e ∧
      reg.registry.find? field.type = some e := by
    intro field listed
    obtain ⟨e, found⟩ := reg.field_entry listed
    obtain ⟨known, canonical⟩ := reg.field_known listed
    refine ⟨e, found, ?_⟩
    rw [find?_of_canonical canonical] at found ⊢
    rw [Registration.registry, ← extend_extend, ← found]
    exact entry?_extend_of_has known _
  rw [Registration.compatible, List.all_eq_true]
  constructor
  · rintro all e ⟨field, listed, found⟩
    obtain ⟨e', known, found'⟩ := same field listed
    cases found.symm.trans found'
    have compatible := all field listed
    rwa [known] at compatible
  · intro all field listed
    obtain ⟨e, known, found⟩ := same field listed
    rw [known]
    exact all e ⟨field, listed, found⟩

theorem Grows.flagged {r later : Registry} (grows : Grows r later) (wellFormed : r.WellFormed)
    (flagged : r.Flagged) : later.Flagged := by
  cases grows with
  | primitive compatible base free canonical =>
    intro d member isStruct
    rcases List.mem_append.mp member with old | new
    · simp [Descriptor.isStruct, base d old] at isStruct
    · cases List.mem_singleton.mp new
      cases isStruct
  | struct reg =>
    intro d member isStruct
    rcases reg.mem_registry member with old | new | rfl
    · simp only [Registration.registry, wellFormed.uses_extend_iff old]
      exact flagged d old isStruct
    · exact absurd isStruct (reg.not_isStruct_of_mem_signatures new)
    · exact reg.compatible_iff
  | freeze => exact flagged

theorem Flagged.of_grows {r later : Registry} (wellFormed : r.WellFormed) (flagged : r.Flagged)
    (grows : ReflTransGen Grows r later) : later.Flagged := by
  induction grows with
  | refl => exact flagged
  | tail early step ih => exact step.flagged (wellFormed.of_grows early) ih

theorem plain_iff_of_not_struct {r : Registry} {d : Descriptor} (other : d.isStruct = false) :
    r.Plain d ↔ d.shape = .primitive ∧ d.compatible = true := by
  constructor
  · intro plain
    exact plain d .refl other
  · intro primitive e reach _
    rcases reach.cases_head with rfl | ⟨next, uses, _⟩
    · exact primitive
    · exact absurd uses (not_uses_of_not_struct other)

/-- The flag of an entry, which looks one level deep, tells whether the entry is
plain data all the way down. -/
theorem WellFormed.compatible_iff_plain {r : Registry} (wellFormed : r.WellFormed)
    (flagged : r.Flagged) {d : Descriptor} (member : d ∈ r.entries) :
    d.compatible = true ↔ r.Plain d := by
  obtain ⟨before, after, split⟩ := List.append_of_mem member
  -- what an entry uses has fewer entries before it
  induction count : before.length using Nat.strongRecOn generalizing d before after with
  | ind _ ih =>
    cases isStruct : d.isStruct with
    | false =>
      rw [plain_iff_of_not_struct isStruct]
      rcases wellFormed.kinds d member with primitive | struct | signature
      · exact ⟨fun compatible => ⟨primitive, compatible⟩, And.right⟩
      · exact absurd struct (Bool.eq_false_iff.mp isStruct)
      · rw [(wellFormed.owned d member signature).1]
        exact ⟨nofun, And.right⟩
    | true =>
      have each : ∀ e, r.Uses d e → (e.compatible = true ↔ r.Plain e) := by
        intro e uses
        have early := wellFormed.mem_of_uses split uses
        obtain ⟨first, rest, rfl⟩ := List.append_of_mem early
        refine ih first.length ?_ (split ▸ List.mem_append_left _ early) first (rest ++ d :: after) ?_ rfl
        · rw [← count, List.length_append, List.length_cons]
          omega
        · rw [split, List.append_assoc, List.cons_append]
      rw [flagged d member isStruct]
      constructor
      · intro all e reach other
        rcases reach.cases_head with rfl | ⟨next, uses, rest⟩
        · exact absurd isStruct (Bool.eq_false_iff.mp other)
        · exact (each next uses).mp (all next uses) e rest other
      · intro plain e uses
        exact (each e uses).mpr fun last reach => plain last (reach.head uses)

end HeaderTypes.Registry
