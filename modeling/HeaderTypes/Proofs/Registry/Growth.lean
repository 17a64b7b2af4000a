import HeaderTypes.Proofs.Registry.Registration
import HeaderTypes.Model
import HeaderTypes.Registry.Primitives
import Mathlib.Logic.Relation

namespace HeaderTypes.Registry
open HeaderTypes.Action Relation

/-- Nothing but primitives is registered. -/
def Primitive (r : Registry) : Prop := ∀ d ∈ r.entries, d.shape = .primitive

/-- All that changes a registry: a new primitive as long as there is nothing
else, a struct with its signatures, and the end of registration. -/
inductive Grows (r : Registry) : Registry → Prop
  | primitive {name : Text.Loose} (compatible : Bool) : r.Primitive → r.has name = false →
      TypeName.key name = name → Grows r (r.extend [.primitive name compatible])
  | struct {tags block} (reg : Registration tags r block) : Grows r reg.registry
  | freeze : Grows r { r with frozen := true }

theorem Grows.appends {r later : Registry} (grows : Grows r later) :
    ∃ appended, later.entries = r.entries ++ appended := by
  cases grows with
  | primitive compatible base free canonical => exact ⟨_, rfl⟩
  | struct reg => exact ⟨_, rfl⟩
  | freeze => exact ⟨[], (List.append_nil _).symm⟩

/-- No entry is ever changed, removed or moved. -/
theorem appends_of_grows {r later : Registry} (grows : ReflTransGen Grows r later) :
    ∃ appended, later.entries = r.entries ++ appended := by
  induction grows with
  | refl => exact ⟨[], (List.append_nil _).symm⟩
  | tail _ step ih =>
    obtain ⟨early, same⟩ := ih
    obtain ⟨late, next⟩ := step.appends
    exact ⟨early ++ late, by rw [next, same, List.append_assoc]⟩

/-- A name that is taken stays taken. -/
theorem has_of_grows {r later : Registry} (grows : ReflTransGen Grows r later) {key : Text.Loose}
    (taken : r.has key) : later.has key := by
  obtain ⟨appended, same⟩ := appends_of_grows grows
  obtain ⟨d, listed, called⟩ := has_iff.mp taken
  exact has_iff.mpr ⟨d, same ▸ List.mem_append_left _ listed, called⟩

/-- Primitives with free and different names in their canonical spelling are all registered. -/
theorem insertEach_ends {primitives : List (Text.Loose × Bool)} {r : Registry} (thawed : r.frozen = false)
    (canonical : ∀ p ∈ primitives, TypeName.key p.1 = p.1)
    (free : ∀ p ∈ primitives, r.has p.1 = false) (distinct : (primitives.map (·.1)).Nodup) :
    (insertEach primitives).Ends r (.ok primitives.length)
      (r.extend (primitives.map fun p => .primitive p.1 p.2)) := by
  induction primitives generalizing r with
  | nil => exact ends_pure_iff.mpr ⟨rfl, (extend_nil r).symm⟩
  | cons p primitives ih =>
    obtain ⟨name, compatible⟩ := p
    obtain ⟨spelled, canonical⟩ := List.forall_mem_cons.mp canonical
    obtain ⟨unused, free⟩ := List.forall_mem_cons.mp free
    obtain ⟨fresh, distinct⟩ := List.nodup_cons.mp distinct
    have inserted : (insert (.primitive name compatible)).Ends r (.ok true)
        (r.extend [.primitive name compatible]) := by
      have ends := insert_ends_of_free (d := .primitive name compatible) thawed
        (show r.has (TypeName.key name) = false by rw [spelled, unused])
      simp only [Descriptor.primitive, spelled] at ends
      exact ends
    have first : (insertPrimitive name compatible).Ends r (.ok true)
        (r.extend [.primitive name compatible]) := by
      refine inserted.bind ?_
      exact ends_pure_iff.mpr ⟨rfl, rfl⟩
    have others : ∀ q ∈ primitives, (r.extend [.primitive name compatible]).has q.1 = false := by
      intro q member
      refine not_has_extend_singleton (free q member) fun same => ?_
      exact fresh (List.mem_map.mpr ⟨q, member, same.symm⟩)
    have rest : (insertEach primitives).Ends (r.extend [.primitive name compatible])
        (.ok primitives.length) _ := ih thawed canonical others distinct
    rw [extend_extend, List.singleton_append] at rest
    refine first.bind (rest.bind (ends_pure_iff.mpr ⟨?_, rfl⟩))
    simp [Nat.add_comm]

/-- A registry to which a primitive is added, unless its name is taken. -/
def seed (r : Registry) (primitive : Text.Loose × Bool) : Registry :=
  if r.has (TypeName.key primitive.1) then r else r.extend [.primitive (TypeName.key primitive.1) primitive.2]

/-- The registry that primitives fill in their order. -/
def seeded (primitives : List (Text.Loose × Bool)) : Registry := primitives.foldl seed {}

theorem seed_frozen (r : Registry) (primitive : Text.Loose × Bool) :
    (r.seed primitive).frozen = r.frozen := by
  unfold seed
  split <;> rfl

theorem foldl_seed_frozen (primitives : List (Text.Loose × Bool)) (r : Registry) :
    (primitives.foldl seed r).frozen = r.frozen := by
  induction primitives generalizing r with
  | nil => rfl
  | cons primitive primitives ih => exact (ih _).trans (seed_frozen r primitive)

theorem size_seed (r : Registry) (primitive : Text.Loose × Bool) :
    (r.seed primitive).size = r.size + if r.has (TypeName.key primitive.1) then 0 else 1 := by
  unfold seed
  split
  · rfl
  · exact List.length_append

theorem insertPrimitive_ends {r : Registry} (thawed : r.frozen = false)
    (primitive : Text.Loose × Bool) :
    (insertPrimitive primitive.1 primitive.2).Ends r (.ok (!r.has (TypeName.key primitive.1)))
      (r.seed primitive) := by
  cases taken : r.has (TypeName.key primitive.1) with
  | true =>
    have kept := insert_ends_of_has (d := .primitive primitive.1 primitive.2) thawed taken
    refine kept.bind ?_
    rw [seed, if_pos taken]
    exact ends_tell_bind_iff.mpr (ends_pure_iff.mpr ⟨rfl, rfl⟩)
  | false =>
    have inserted := insert_ends_of_free (d := .primitive primitive.1 primitive.2) thawed taken
    refine inserted.bind ?_
    rw [seed, if_neg (Bool.eq_false_iff.mp taken)]
    exact ends_pure_iff.mpr ⟨rfl, rfl⟩

/-- Primitives are never refused before the first header, and those are counted that are new. -/
theorem insertEach_ends_foldl (primitives : List (Text.Loose × Bool)) {r : Registry}
    (thawed : r.frozen = false) :
    ∃ count, (insertEach primitives).Ends r (.ok count) (primitives.foldl seed r) ∧
      (primitives.foldl seed r).size = r.size + count := by
  induction primitives generalizing r with
  | nil => exact ⟨0, ends_pure_iff.mpr ⟨rfl, rfl⟩, rfl⟩
  | cons primitive primitives ih =>
    have first := insertPrimitive_ends thawed primitive
    obtain ⟨count, rest, size⟩ := ih ((seed_frozen r primitive).trans thawed)
    refine ⟨_, first.bind (rest.bind (ends_pure_iff.mpr ⟨rfl, rfl⟩)), ?_⟩
    rw [List.foldl_cons, size, size_seed, Nat.add_assoc]
    cases r.has (TypeName.key primitive.1) <;> rfl

theorem entry?_seed (r : Registry) (primitive : Text.Loose × Bool) (key : Text.Loose) :
    entry? (r.seed primitive) key =
      (r.entry? key).or
        (if TypeName.key primitive.1 = key then some (.primitive key primitive.2) else none) := by
  unfold seed
  by_cases taken : r.has (TypeName.key primitive.1)
  · rw [if_pos taken]
    split
    · rename_i same
      obtain ⟨d, found⟩ := Option.isSome_iff_exists.mp taken
      rw [same] at found
      rw [found, Option.some_or]
    · rw [Option.or_none]
  · rw [if_neg taken, entry?_extend]
    refine congrArg (r.entry? key).or ?_
    by_cases same : TypeName.key primitive.1 = key
    · rw [if_pos same, ← same]
      exact List.find?_cons_of_pos (decide_eq_true rfl)
    · rw [if_neg same]
      exact List.find?_cons_of_neg fun found => same (of_decide_eq_true found)

/-- A name has the entry that it had, or that of the first primitive which is called so. -/
theorem entry?_foldl_seed (primitives : List (Text.Loose × Bool)) (r : Registry) (key : Text.Loose) :
    entry? (primitives.foldl seed r) key =
      (r.entry? key).or ((primitives.find? (TypeName.key ·.1 = key)).map fun p => .primitive key p.2) := by
  induction primitives generalizing r with
  | nil => exact (Option.or_none).symm
  | cons primitive primitives ih =>
    rw [List.foldl_cons, ih, entry?_seed, Option.or_assoc]
    refine congrArg (r.entry? key).or ?_
    by_cases same : TypeName.key primitive.1 = key
    · have first : (primitive :: primitives).find? (TypeName.key ·.1 = key) = some primitive :=
        List.find?_cons_of_pos (decide_eq_true same)
      rw [if_pos same, first]
      rfl
    · have later : (primitive :: primitives).find? (TypeName.key ·.1 = key) =
          primitives.find? (TypeName.key ·.1 = key) := List.find?_cons_of_neg (by simpa using same)
      rw [if_neg same, later, Option.none_or]

theorem has_foldl_seed_iff {primitives : List (Text.Loose × Bool)} {r : Registry} {key : Text.Loose} :
    (primitives.foldl seed r).has key ↔ r.has key ∨ ∃ p ∈ primitives, TypeName.key p.1 = key := by
  rw [has, entry?_foldl_seed, Option.isSome_or, Option.isSome_map, Bool.or_eq_true, List.find?_isSome]
  simp only [decide_eq_true_eq, has]

theorem distinct_foldl_seed (primitives : List (Text.Loose × Bool)) {r : Registry}
    (distinct : (r.entries.map (·.name)).Nodup) :
    ((primitives.foldl seed r).entries.map (·.name)).Nodup := by
  induction primitives generalizing r with
  | nil => exact distinct
  | cons primitive primitives ih =>
    refine ih ?_
    unfold seed
    split
    · exact distinct
    · rename_i free
      refine distinct_extend distinct (List.pairwise_singleton _ _) fun d member => ?_
      cases List.mem_singleton.mp member
      exact Bool.eq_false_iff.mpr free

theorem insertPrimitive_grows {r after : Registry} {name : Text.Loose} {compatible : Bool}
    {result : Except Failure Bool} (base : r.Primitive)
    (ends : (insertPrimitive name compatible).Ends r result after) :
    ReflTransGen Grows r after ∧ after.Primitive := by
  have inserted : ∃ result, (insert (.primitive name compatible)).Ends r result after := by
    rcases ends_bind_iff.mp ends with ⟨added, between, inserted, told⟩ | ⟨cause, refused, _⟩
    · have left : between = after := by
        cases added with
        | true => exact told.2
        | false => exact (ends_tell_bind_iff.mp told).2
      exact ⟨_, left ▸ inserted⟩
    · exact ⟨_, refused⟩
  obtain ⟨_, inserted⟩ := inserted
  rcases insert_ends_cases inserted with rfl | ⟨free, rfl⟩
  · exact ⟨.refl, base⟩
  · refine ⟨.single (.primitive compatible base free (TypeName.key_key name)), ?_⟩
    intro d member
    rcases List.mem_append.mp member with old | new
    · exact base d old
    · cases List.mem_singleton.mp new
      rfl

theorem insertEach_grows {primitives : List (Text.Loose × Bool)} {r after : Registry}
    {result : Except Failure Nat} (base : r.Primitive)
    (ends : (insertEach primitives).Ends r result after) :
    ReflTransGen Grows r after ∧ after.Primitive := by
  induction primitives generalizing r after result with
  | nil =>
    obtain ⟨_, rfl⟩ := ends
    exact ⟨.refl, base⟩
  | cons primitive primitives ih =>
    rcases ends_bind_iff.mp ends with ⟨added, between, first, ends⟩ | ⟨cause, refused, _⟩
    · obtain ⟨grows, base'⟩ := insertPrimitive_grows base first
      rcases ends_bind_iff.mp ends with ⟨more, between', rest, _, rfl⟩ | ⟨cause, refused, _⟩
      · obtain ⟨grows', base''⟩ := ih base' rest
        exact ⟨grows.trans grows', base''⟩
      · obtain ⟨grows', base''⟩ := ih base' refused
        exact ⟨grows.trans grows', base''⟩
    · exact insertPrimitive_grows base refused

theorem insertPrimitives_grows {primitives : List (Text.Loose × Bool)} {r after : Registry}
    {result : Except Failure Nat} (base : r.Primitive)
    (ends : (insertPrimitives primitives).Ends r result after) :
    ReflTransGen Grows r after ∧ after.Primitive := by
  rcases ends_bind_iff.mp ends with ⟨count, between, seeded, _, rfl⟩ | ⟨cause, refused, _⟩
  · exact insertEach_grows base seeded
  · exact insertEach_grows base refused

theorem close_ends_iff {r after : Registry} {result : Except Failure (List Descriptor)} :
    close.Ends r result after ↔ .ok r.structs = result ∧ { r with frozen := true } = after := by
  simp only [close, freeze, ends_update_bind_iff, ends_get_bind_iff, ends_tell_bind_iff]
  exact Iff.rfl

end HeaderTypes.Registry
