import HeaderTypes.Proofs.Registry.Calls
import HeaderTypes.Proofs.TypeName.Passes

namespace HeaderTypes

namespace TypeName

theorem rewritten_rewritten (s : List Char) : rewritten (rewritten s) = rewritten s := by
  rw [← spelling_eq_rewritten, ← spelling_eq_rewritten, spelling_spelling]

end TypeName

namespace Registry
open HeaderTypes.TypeName

/-- An entry is found under a name, in whichever way a type is looked up. -/
structure Found (r : Registry) (name : String) (d : Descriptor) : Prop where
  find : r.find? name = some d
  entry : r.entry name = .ok d
  contains : r.contains name
  resolve : ∀ struct field role, r.resolve name struct field role = .ok name

section
variable {r : Registry} {name : String} {d : Descriptor}

theorem found_of_entry? (canonical : TypeName.canonical name = name)
    (found : r.entry? name = some d) : r.Found name d := by
  have known : r.has name := by
    rw [has, found]
    rfl
  have find : r.find? name = some d := (find?_of_canonical canonical).trans found
  refine ⟨find, entry_of_find? find, ?_, fun struct field role => ?_⟩
  · rw [Registry.contains, key, Text.Loose.mapText, canonical]
    exact known
  · exact resolve_eq_ok_iff.mpr ⟨canonical.symm, by rwa [canonical]⟩

theorem canonical_of_mem {r : Registry} (filled : Filled r) (member : d ∈ r.entries)
    (named : d.name = name) : TypeName.canonical name = name := by
  have keyed := filled.keys.2 d member
  rw [named] at keyed
  exact congrArg Text.Loose.text keyed

end

/-- A registry after more calls. -/
def afterCalls (r : Registry) (calls : List Call) : Registry :=
  calls.foldl (fun r call => (call.act.run r).state) r

theorem appends_afterCalls (r : Registry) (calls : List Call) :
    r.entries <+: (r.afterCalls calls).entries := by
  induction calls generalizing r with
  | nil => exact List.prefix_rfl
  | cons call calls ih =>
    have settles : Settles r (call.act.run r).result _ := call.settles ⟨rfl, rfl⟩
    exact settles.advances.appends.trans (ih _)

/-- What is found is found for good. -/
theorem entry?_afterCalls {r : Registry} {key : Text.Loose} {d : Descriptor}
    (found : r.entry? key = some d) (calls : List Call) :
    entry? (r.afterCalls calls) key = some d := by
  obtain ⟨more, same⟩ := r.appends_afterCalls calls
  have found : r.entries.find? (·.name = key) = some d := found
  change (r.afterCalls calls).entries.find? (·.name = key) = some d
  rw [← same, List.find?_append, found, Option.some_or]

/-- A canonical spelling is spelled as it is, whatever is in it, and so is a name that the four
passes went over. So every entry is found under its name as long as there is the registry, and under
the name that a type was resolved to. -/
theorem filled_lookup :
    (∀ name : Text.Loose, key (key name) = key name) ∧
    (∀ name : String, canonical (canonical name) = canonical name) ∧
    (∀ s : List Char, rewritten (rewritten s) = rewritten s) ∧
    ∀ r, Filled r →
      (∀ d ∈ r.entries, ∀ calls, (r.afterCalls calls).contains d.name ∧
        entry? (r.afterCalls calls) (key d.name) = some d ∧
        ∀ name : String, d.name = name → (r.afterCalls calls).Found name d) ∧
      ∀ type struct field role name, r.resolve type struct field role = .ok name →
        ∃ d ∈ r.entries, d.name = name ∧ ∀ calls,
          (r.afterCalls calls).find? type = some d ∧ (r.afterCalls calls).Found name d := by
  refine ⟨key_key, canonical_canonical, rewritten_rewritten, fun r filled => ⟨?_, ?_⟩⟩
  · intro d member calls
    have own : r.entry? d.name = some d := entry?_of_mem filled.keys.1 member
    have found := entry?_afterCalls own calls
    refine ⟨?_, ?_, fun name named => found_of_entry? (canonical_of_mem filled member named) ?_⟩
    · rw [contains, filled.keys.2 d member, has, found]
      rfl
    · rw [filled.keys.2 d member, found]
    · rw [← named, found]
  · intro type struct field role name resolved
    obtain ⟨rfl, known⟩ := resolve_eq_ok_iff.mp resolved
    obtain ⟨d, found⟩ := Option.isSome_iff_exists.mp known
    obtain ⟨member, named⟩ := mem_of_entry? found
    refine ⟨d, member, named, fun calls => ⟨entry?_afterCalls found calls, ?_⟩⟩
    exact found_of_entry? (canonical_canonical type) (entry?_afterCalls found calls)

theorem filled_lookup_oddRun :
    Filled oddRun ∧ oddRun.resolve "const\tchar*" "s_t" none "field" = .ok "const char *" ∧
      ∃ d ∈ oddRun.entries, d.name = "const char *" ∧ ∀ calls,
        (oddRun.afterCalls calls).find? "const\tchar*" = some d ∧
          (oddRun.afterCalls calls).Found "const char *" d := by
  have resolved : oddRun.resolve "const\tchar*" "s_t" none "field" = .ok "const char *" := by
    decide +kernel
  exact ⟨filled_oddRun, resolved,
    (filled_lookup.2.2.2 oddRun filled_oddRun).2 _ _ _ _ _ resolved⟩

end Registry

end HeaderTypes
