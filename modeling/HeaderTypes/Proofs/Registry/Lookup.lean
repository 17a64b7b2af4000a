import HeaderTypes.Proofs.Action
import HeaderTypes.Proofs.TypeName.Canonical
import HeaderTypes.Registry.Fields

namespace HeaderTypes.Registry
open Text (Loose)

/-- A registry with more entries behind its own. -/
def extend (r : Registry) (more : List Descriptor) : Registry :=
  { r with entries := r.entries ++ more }

@[simp] theorem extend_entries (r : Registry) (more : List Descriptor) :
    (r.extend more).entries = r.entries ++ more := rfl

theorem extend_nil (r : Registry) : r.extend [] = r := by simp [extend]

theorem extend_extend (r : Registry) (more others : List Descriptor) :
    (r.extend more).extend others = r.extend (more ++ others) := by
  simp [extend]

theorem entry?_extend (r : Registry) (more : List Descriptor) (key : Loose) :
    entry? (r.extend more) key = (r.entry? key).or (more.find? (·.name = key)) :=
  List.find?_append

theorem has_iff {r : Registry} {key : Loose} : r.has key ↔ ∃ d ∈ r.entries, d.name = key := by
  simp [has, entry?]

theorem not_has_iff {r : Registry} {key : Loose} :
    r.has key = false ↔ ∀ d ∈ r.entries, d.name ≠ key := by
  simp [has, entry?]

theorem has_extend {r : Registry} {more : List Descriptor} {key : Loose} :
    (r.extend more).has key ↔ r.has key ∨ ∃ d ∈ more, d.name = key := by
  simp only [has_iff, extend_entries, List.mem_append]
  constructor
  · rintro ⟨d, old | new, same⟩
    · exact Or.inl ⟨d, old, same⟩
    · exact Or.inr ⟨d, new, same⟩
  · rintro (⟨d, old, same⟩ | ⟨d, new, same⟩)
    · exact ⟨d, Or.inl old, same⟩
    · exact ⟨d, Or.inr new, same⟩

/-- A free name stays free when an entry of another name is registered. -/
theorem not_has_extend_singleton {r : Registry} {d : Descriptor} {key : Loose}
    (free : r.has key = false) (other : d.name ≠ key) : (r.extend [d]).has key = false := by
  refine Bool.eq_false_iff.mpr fun taken => ?_
  rcases has_extend.mp taken with old | ⟨e, new, same⟩
  · exact Bool.false_ne_true (free.symm.trans old)
  · cases List.mem_singleton.mp new
    exact other same

/-- Free names that differ from each other leave all names different. -/
theorem distinct_extend {r : Registry} {more : List Descriptor}
    (distinct : (r.entries.map (·.name)).Nodup) (others : (more.map (·.name)).Nodup)
    (free : ∀ d ∈ more, r.has d.name = false) : ((r.extend more).entries.map (·.name)).Nodup := by
  rw [extend_entries, List.map_append]
  refine List.nodup_append.mpr ⟨distinct, others, ?_⟩
  intro name old name' new same
  obtain ⟨d, member, rfl⟩ := List.mem_map.mp new
  obtain ⟨e, member', rfl⟩ := List.mem_map.mp old
  exact not_has_iff.mp (free d member) e member' same

/-- A name that is taken keeps its entry, whatever is registered later. -/
theorem entry?_extend_of_has {r : Registry} {key : Loose} (taken : r.has key)
    (more : List Descriptor) : entry? (r.extend more) key = r.entry? key := by
  obtain ⟨d, found⟩ := Option.isSome_iff_exists.mp taken
  rw [entry?_extend, found, Option.some_or]

theorem entry?_extend_of_not_has {r : Registry} {key : Loose} (free : r.has key = false)
    (more : List Descriptor) :
    entry? (r.extend more) key = more.find? (·.name = key) := by
  have absent : r.entry? key = none := Option.isSome_eq_false_iff.mp free |> Option.isNone_iff_eq_none.mp
  rw [entry?_extend, absent, Option.none_or]

theorem mem_of_entry? {r : Registry} {key : Loose} {d : Descriptor} (found : r.entry? key = some d) :
    d ∈ r.entries ∧ d.name = key :=
  ⟨List.mem_of_find?_eq_some found, by simpa using List.find?_some found⟩

/-- Where no name comes twice, an entry is found under its name. -/
theorem find?_name_of_mem {entries : List Descriptor} (distinct : (entries.map (·.name)).Nodup)
    {d : Descriptor} (member : d ∈ entries) : entries.find? (·.name = d.name) = some d := by
  induction entries with
  | nil => cases member
  | cons first rest ih =>
    obtain ⟨fresh, others⟩ := List.nodup_cons.mp distinct
    rcases List.mem_cons.mp member with rfl | later
    · exact List.find?_cons_of_pos (by simp)
    · have other : first.name ≠ d.name := fun same =>
        fresh (List.mem_map.mpr ⟨d, later, same.symm⟩)
      rw [List.find?_cons_of_neg (by simpa using other)]
      exact ih others later

theorem entry?_of_mem {r : Registry} (distinct : (r.entries.map (·.name)).Nodup) {d : Descriptor}
    (member : d ∈ r.entries) : r.entry? d.name = some d :=
  find?_name_of_mem distinct member

theorem contains_of_isName {r : Registry} {name : String} (named : Text.isName name.toList) :
    r.contains name = r.has name := by
  simp only [contains, TypeName.key, Loose.mapText, TypeName.canonical_of_isName named]

theorem find?_of_canonical {r : Registry} {type : String} (canonical : TypeName.canonical type = type) :
    r.find? type = r.entry? type := by
  rw [find?, canonical]

theorem entry_of_find? {r : Registry} {type : String} {d : Descriptor} (found : r.find? type = some d) :
    r.entry type = .ok d := by
  rw [entry, found]

open HeaderTypes.Action

theorem insert_ends_of_has {r : Registry} (thawed : r.frozen = false) {d : Descriptor}
    (taken : r.has (TypeName.key d.name)) : (insert d).Ends r (.ok false) r := by
  simp only [insert, ends_get_bind_iff, thawed, taken, Bool.false_eq_true, if_false, if_true]
  exact ends_pure_iff.mpr ⟨rfl, rfl⟩

theorem insert_ends_of_free {r : Registry} (thawed : r.frozen = false) {d : Descriptor}
    (free : r.has (TypeName.key d.name) = false) :
    (insert d).Ends r (.ok true) (r.extend [{ d with name := TypeName.key d.name }]) := by
  simp only [insert, ends_get_bind_iff, thawed, free, Bool.false_eq_true, if_false,
    ends_update_bind_iff, ends_tell_bind_iff]
  exact ends_pure_iff.mpr ⟨rfl, by simp only [extend, thawed]⟩

theorem insert_ends_of_frozen {r : Registry} (frozen : r.frozen = true) (d : Descriptor) :
    (insert d).Ends r (.error (.frozen (TypeName.key d.name).text)) r := by
  simp only [insert, ends_get_bind_iff, frozen, if_true]
  exact ends_refuse_iff.mpr ⟨rfl, rfl⟩

/-- An entry is registered behind all others or nothing is changed. -/
theorem insert_ends_cases {r after : Registry} {d : Descriptor} {result : Except Failure Bool}
    (ends : (insert d).Ends r result after) :
    after = r ∨ r.has (TypeName.key d.name) = false ∧
      after = r.extend [{ d with name := TypeName.key d.name }] := by
  cases frozen : r.frozen with
  | true => exact Or.inl (ends.unique (insert_ends_of_frozen frozen d)).2
  | false =>
    cases taken : r.has (TypeName.key d.name) with
    | true => exact Or.inl (ends.unique (insert_ends_of_has frozen taken)).2
    | false => exact Or.inr ⟨rfl, (ends.unique (insert_ends_of_free frozen taken)).2⟩

/-- An entry as it is registered, under the canonical spelling of its name. -/
def keyed (d : Descriptor) : Descriptor := { d with name := TypeName.key d.name }

theorem keyed_of_canonical {d : Descriptor} (canonical : TypeName.key d.name = d.name) :
    keyed d = d := by
  rw [keyed, canonical]

theorem add_ends {r : Registry} (thawed : r.frozen = false) {d : Descriptor}
    (free : r.contains d.name = false) : (add d).Ends r (.ok d) (r.extend [keyed d]) :=
  (insert_ends_of_free thawed free).bind (ends_pure_iff.mpr ⟨rfl, rfl⟩)

theorem add_ends_of_free {r : Registry} (thawed : r.frozen = false) {d : Descriptor}
    (canonical : TypeName.key d.name = d.name) (free : r.has d.name = false) :
    (add d).Ends r (.ok d) (r.extend [d]) := by
  have added := add_ends thawed (d := d) (by rw [contains, canonical, free])
  rwa [keyed_of_canonical canonical] at added

/-- Entries whose names are free and spelled differently are all registered, in their order. -/
theorem addEach_ends_keyed {entries : List Descriptor} {r : Registry} (thawed : r.frozen = false)
    (free : ∀ d ∈ entries, r.contains d.name = false)
    (distinct : (entries.map fun d => TypeName.key d.name).Nodup) :
    (addEach entries).Ends r (.ok ()) (r.extend (entries.map keyed)) := by
  induction entries generalizing r with
  | nil => exact ends_pure_iff.mpr ⟨rfl, (extend_nil r).symm⟩
  | cons d ds ih =>
    obtain ⟨fresh, others⟩ := List.nodup_cons.mp distinct
    have first := add_ends thawed (free d List.mem_cons_self)
    have rest : (addEach ds).Ends (r.extend [keyed d]) (.ok ())
        ((r.extend [keyed d]).extend (ds.map keyed)) := by
      refine ih thawed ?_ others
      intro e member
      refine not_has_extend_singleton (free e (List.mem_cons_of_mem _ member)) fun same => ?_
      exact fresh (List.mem_map.mpr ⟨e, member, same.symm⟩)
    rw [extend_extend, List.singleton_append] at rest
    exact first.bind rest

theorem addEach_ends {entries : List Descriptor} {r : Registry} (thawed : r.frozen = false)
    (canonical : ∀ d ∈ entries, TypeName.key d.name = d.name)
    (free : ∀ d ∈ entries, r.has d.name = false) (distinct : (entries.map (·.name)).Nodup) :
    (addEach entries).Ends r (.ok ()) (r.extend entries) := by
  have keys : entries.map (fun d => TypeName.key d.name) = entries.map (·.name) :=
    List.map_congr_left canonical
  have kept : entries.map keyed = entries :=
    (List.map_congr_left fun d member => keyed_of_canonical (canonical d member)).trans
      (List.map_id' entries)
  have free' : ∀ d ∈ entries, r.contains d.name = false := fun d member => by
    rw [contains, canonical d member, free d member]
  have added := addEach_ends_keyed thawed free' (keys ▸ distinct)
  rwa [kept] at added

end HeaderTypes.Registry
