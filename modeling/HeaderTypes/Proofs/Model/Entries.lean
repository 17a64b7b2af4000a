import HeaderTypes.Proofs.Document.Model
import HeaderTypes.Proofs.Model.Shown
import HeaderTypes.Proofs.Scan.Runs

namespace HeaderTypes

/-- The signatures of the function pointers that a struct has of its own. -/
def ModelStruct.signatures (s : ModelStruct) : List Descriptor :=
  s.fields.filterMap fun field =>
    if field.type = TypeName.ofSignature s.name field.name then
      field.signature.map fun (returns, arguments) => .signature field.type returns arguments
    else none

def ModelStruct.entry (s : ModelStruct) : Descriptor :=
  .struct s.name (s.fields.map fun field => ⟨field.type, field.name⟩) s.compatible

/-- The entries of a registry as they are read off its model. -/
def Model.entries (model : Model) : List Descriptor :=
  model.primitives ++ model.structs.flatMap fun s => s.signatures ++ [s.entry]

namespace Registry
open Relation

/-- The entries are the primitives, and then each struct behind its signatures. -/
def Grouped (r : Registry) : Prop :=
  r.entries = r.entries.filter (·.isBase) ++
    r.structs.flatMap fun d => d.fields.filterMap (r.declaredBy d) ++ [d]

theorem shown_eq_of_entries_eq {r s : Registry} (same : r.entries = s.entries) : r.shown = s.shown := by
  obtain ⟨entries, _⟩ := r
  obtain ⟨_, _⟩ := s
  cases same
  rfl

theorem Primitive.grouped {r : Registry} (base : r.Primitive) : r.Grouped := by
  have all : r.entries.filter (·.isBase) = r.entries := List.filter_eq_self.mpr fun d member => by
    simp [Descriptor.isBase, Descriptor.isStruct, Descriptor.isSignature, base d member]
  have none : r.structs = [] := List.filter_eq_nil_iff.mpr fun d member => by
    simp [Descriptor.isStruct, base d member]
  rw [Grouped, all, none, List.flatMap_nil, List.append_nil]

theorem Registration.grouped {tags : Tags} {r : Registry} {block : StructBlock}
    (reg : Registration tags r block) (wellFormed : r.WellFormed) (grouped : r.Grouped) :
    reg.registry.Grouped := by
  have unbased : (reg.signatures ++ [reg.struct]).filter (·.isBase) = [] := by
    refine List.filter_eq_nil_iff.mpr fun d member => ?_
    rcases List.mem_append.mp member with signed | last
    · obtain ⟨_, _, _, _, rfl, _⟩ := reg.signature_of_mem signed
      exact Bool.false_ne_true
    · cases List.mem_singleton.mp last
      exact Bool.false_ne_true
  have structless : reg.signatures.filter (·.isStruct) = [] :=
    List.filter_eq_nil_iff.mpr fun d member => reg.not_isStruct_of_mem_signatures member
  have structs : reg.registry.structs = r.structs ++ [reg.struct] := by
    rw [Registry.structs, Registration.registry, extend_entries, List.filter_append, List.filter_append,
      structless]
    rfl
  have before : (r.structs.flatMap fun d => d.fields.filterMap (reg.registry.declaredBy d) ++ [d]) =
      r.structs.flatMap fun d => d.fields.filterMap (r.declaredBy d) ++ [d] := by
    refine List.flatMap_congr fun d member => ?_
    rw [Registration.registry, wellFormed.declaredBy_extend (List.mem_filter.mp member).1]
  have own : reg.struct.fields.filterMap (reg.registry.declaredBy reg.struct) = reg.signatures :=
    reg.declared_eq_signatures wellFormed
  have entries : reg.registry.entries = r.entries ++ (reg.signatures ++ [reg.struct]) := rfl
  rw [Grouped, structs, List.flatMap_append, before, List.flatMap_singleton, own, entries,
    List.filter_append, unbased, List.append_nil, ← List.append_assoc (r.entries.filter _), ← grouped]

theorem Grows.grouped {r later : Registry} (grows : Grows r later) (wellFormed : r.WellFormed)
    (grouped : r.Grouped) : later.Grouped := by
  cases grows with
  | @primitive name compatible base free canonical =>
    refine Primitive.grouped fun d member => ?_
    rcases List.mem_append.mp member with old | new
    · exact base d old
    · cases List.mem_singleton.mp new
      rfl
  | struct reg => exact reg.grouped wellFormed grouped
  | freeze => exact grouped

theorem Grouped.of_grows {r later : Registry} (wellFormed : r.WellFormed) (grouped : r.Grouped)
    (grows : ReflTransGen Grows r later) : later.Grouped := by
  induction grows with
  | refl => exact grouped
  | tail early step ih => exact step.grouped (wellFormed.of_grows early) ih

section
variable {r : Registry} (wellFormed : r.WellFormed)
include wellFormed

theorem WellFormed.entry_shownStruct {d : Descriptor} (member : d ∈ r.entries) (isStruct : d.isStruct) :
    (r.shownStruct d).entry = d := by
  obtain ⟨name, named, _⟩ := wellFormed.named d member isStruct
  obtain ⟨_, compatible, shape⟩ := d
  cases named
  cases shape with
  | struct fields =>
    have same : (fields.map r.shownField).map (fun field => (⟨field.type, field.name⟩ : Field)) = fields := by
      rw [List.map_map]
      exact List.map_id fields
    exact congrArg (Descriptor.struct name · compatible) same
  | primitive | signature _ _ | other _ => cases isStruct

/-- A field shows the signature that it declares. -/
theorem WellFormed.signatures_shownStruct {d : Descriptor} (member : d ∈ r.entries) :
    (r.shownStruct d).signatures = d.fields.filterMap (r.declaredBy d) := by
  rw [ModelStruct.signatures, shownStruct, List.filterMap_map]
  refine List.filterMap_congr fun field listed => ?_
  obtain ⟨before, after, split⟩ := List.append_of_mem member
  obtain ⟨e, early, named, canonical, found⟩ := wellFormed.find?_field split listed
  have registered : e ∈ r.entries := split ▸ List.mem_append_left _ early
  have found' : r.entry? field.type = some e := (find?_of_canonical canonical).symm.trans found
  simp only [Function.comp_apply, declaredBy, shownField, found, found', Option.bind_some]
  refine ite_congr rfl (fun _ => ?_) fun _ => rfl
  cases signature : e.isSignature with
  | false =>
    rw [Descriptor.signature?_eq_none_iff.mpr signature]
    exact (Option.filter_some_neg (by simp [signature])).symm
  | true =>
    obtain ⟨returns, arguments, shape⟩ := Descriptor.shape_of_isSignature signature
    have plain := (wellFormed.owned e registered signature).1
    have same : e = .signature field.type returns arguments := by
      obtain ⟨_, _, _⟩ := e
      cases named
      cases plain
      cases shape
      rfl
    rw [Descriptor.signature?_eq_some_iff.mpr shape, same]
    rfl

/-- Nothing of a registry is lost in its model. -/
theorem WellFormed.entries_shown (grouped : r.Grouped) : r.shown.entries = r.entries := by
  have structs : (r.structs.map r.shownStruct).flatMap (fun s => s.signatures ++ [s.entry]) =
      r.structs.flatMap fun d => d.fields.filterMap (r.declaredBy d) ++ [d] := by
    rw [List.flatMap_map]
    refine List.flatMap_congr fun d member => ?_
    obtain ⟨registered, isStruct⟩ := List.mem_filter.mp member
    rw [wellFormed.signatures_shownStruct registered, wellFormed.entry_shownStruct registered isStruct]
  rw [Model.entries, shown, structs, ← grouped]

theorem WellFormed.shape_of_mem_shown_primitives {p : Descriptor} (member : p ∈ r.shown.primitives) :
    p.shape = .primitive := by
  obtain ⟨registered, base⟩ := List.mem_filter.mp member
  simp only [Descriptor.isBase, Bool.and_eq_true, Bool.not_eq_true'] at base
  rcases wellFormed.kinds p registered with primitive | isStruct | signature
  · exact primitive
  · exact absurd isStruct (Bool.eq_false_iff.mp base.1)
  · exact absurd signature (Bool.eq_false_iff.mp base.2)

end

end Registry

namespace Scan
open HeaderTypes.Action Registry

theorem entries_shown_of_reach {tags : Tags} {check : SyntaxCheck} {scan : Scan}
    (reach : Reach (fresh tags check) scan) :
    scan.registry.shown.entries = scan.registry.entries ∧
      ∀ p ∈ scan.registry.shown.primitives, p.shape = .primitive := by
  have grows := reach.grows_of_fresh
  have wellFormed := wellFormed_empty.of_grows grows
  have empty : Grouped {} := Primitive.grouped nofun
  exact ⟨wellFormed.entries_shown (empty.of_grows wellFormed_empty grows),
    fun _ => wellFormed.shape_of_mem_shown_primitives⟩

/-- Two scans, whatever was asked of them, have models that are written alike
exactly when their registries have the same entries in the same order. -/
theorem finish_value_eq_iff {tags tags' : Tags} {check check' : SyntaxCheck} {scan scan' : Scan}
    (reach : Reach (fresh tags check) scan) (reach' : Reach (fresh tags' check') scan') :
    ∃ model model', finish.Ends scan (.ok model) scan.closed ∧
      finish.Ends scan' (.ok model') scan'.closed ∧
      (model.value = model'.value ↔ scan.registry.entries = scan'.registry.entries) := by
  obtain ⟨entries, base⟩ := entries_shown_of_reach reach
  obtain ⟨entries', base'⟩ := entries_shown_of_reach reach'
  refine ⟨_, _, finish_ends_of_reach reach, finish_ends_of_reach reach', fun same => ?_, fun same => ?_⟩
  · have models := Model.value_inj base base' same
    rw [← entries, ← entries', models]
  · rw [shown_eq_of_entries_eq same]

/-- The header of `nestedRun` in two parts, with `int` made known once more in between. -/
def splitRun : Scan :=
  (Operation.header "typedef struct { a_t a; int n; } b_t;" "b").after
    ((Operation.primitive "int" true).after
      ((Operation.header "typedef struct { int a; } a_t;" "a").after
        ((Operation.primitive "int" true).after (fresh none .off))))

theorem finish_value_eq_iff_splitRun :
    Reach (fresh none .off) nestedRun ∧ Reach (fresh none .off) splitRun ∧
      nestedRun.registry.entries = splitRun.registry.entries ∧
      ∃ model model', finish.Ends nestedRun (.ok model) nestedRun.closed ∧
        finish.Ends splitRun (.ok model') splitRun.closed ∧
        (model.value = model'.value ↔ nestedRun.registry.entries = splitRun.registry.entries) := by
  have nested : Reach (fresh none .off) nestedRun :=
    (Reach.start.next (.primitive "int" true)).next (.header _ "n")
  have split : Reach (fresh none .off) splitRun :=
    (((Reach.start.next (.primitive "int" true)).next (.header _ "a")).next
      (.primitive "int" true)).next (.header _ "b")
  have same : nestedRun.registry.entries = splitRun.registry.entries := by decide +kernel
  exact ⟨nested, split, same, finish_value_eq_iff nested split⟩

end Scan

end HeaderTypes
