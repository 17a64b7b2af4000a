import HeaderTypes.Document.Yaml.Reader
import HeaderTypes.Manifest
import HeaderTypes.Proofs.Scan.Reach
import Mathlib.Data.List.Dedup

namespace HeaderTypes.Manifest
open Document
open Text (Loose)

section
variable {ε ε' α β : Type}

theorem ok_of_bind {first : Except ε α} {next : α → Except ε β} {b : β}
    (ok : (first >>= next) = .ok b) : ∃ a, first = .ok a ∧ next a = .ok b := by
  cases first with
  | error cause => cases ok
  | ok a => exact ⟨a, rfl, ok⟩

theorem ok_of_mapError {change : ε → ε'} {value : Except ε α} {a : α}
    (ok : value.mapError change = .ok a) : value = .ok a := by
  cases value with
  | error cause => cases ok
  | ok b => exact congrArg Except.ok (Except.ok.inj ok)

/-- What is read from a value that may be missing is read from one that is there. -/
theorem ok_of_mapM {value? : Option α} {read : α → Except ε β} {b : β}
    (ok : value?.mapM read = .ok (some b)) : ∃ a, value? = some a ∧ read a = .ok b := by
  cases value? with
  | none => cases ok
  | some a =>
    obtain ⟨b', found, same⟩ := ok_of_bind ok
    cases same
    exact ⟨a, rfl, found⟩

end

/-- The names that are read differ from each other and from those before. -/
theorem nodup_of_readPrimitives {seen : List Loose} {items : List Part}
    {primitives : List (Loose × Bool)} (read : readPrimitives seen items = .ok primitives) :
    (primitives.map (·.1)).Nodup ∧ ∀ p ∈ primitives, p.1 ∉ seen := by
  induction items generalizing seen primitives with
  | nil =>
    cases read
    exact ⟨List.nodup_nil, nofun⟩
  | cons item items ih =>
    obtain ⟨first, _, read⟩ := ok_of_bind read
    split at read
    · cases read
    · rename_i unseen
      obtain ⟨others, rest, same⟩ := ok_of_bind read
      cases same
      obtain ⟨distinct, fresh⟩ := ih rest
      have unseen : first.1 ∉ seen := by simpa using unseen
      refine ⟨List.nodup_cons.mpr ⟨?_, distinct⟩, List.forall_mem_cons.mpr ⟨unseen, ?_⟩⟩
      · intro again
        obtain ⟨p, member, same⟩ := List.mem_map.mp again
        exact fresh p member (List.mem_cons.mpr (Or.inl same))
      · exact fun p member earlier => fresh p member (List.mem_cons_of_mem _ earlier)

theorem readPrimitives_of_ofPart {byDefault : Bool} {document : Part} {manifest : Manifest}
    {primitives : List (Loose × Bool)} (read : ofPart byDefault document = .ok manifest)
    (listed : manifest.primitives = some primitives) :
    ∃ items, readPrimitives [] items = .ok primitives := by
  obtain ⟨entries, _, read⟩ := ok_of_bind read
  dsimp only at read
  split at read
  · obtain ⟨items, _, read⟩ := ok_of_bind read
    split at read
    · cases read
    · obtain ⟨headers, _, read⟩ := ok_of_bind read
      obtain ⟨found, primitivesRead, read⟩ := ok_of_bind read
      obtain ⟨tags, _, read⟩ := ok_of_bind read
      obtain ⟨root, _, read⟩ := ok_of_bind read
      obtain ⟨output, _, read⟩ := ok_of_bind read
      obtain ⟨reports, _, read⟩ := ok_of_bind read
      cases read
      cases listed
      obtain ⟨value, _, read⟩ := ok_of_mapM primitivesRead
      obtain ⟨items, _, read⟩ := ok_of_bind read
      exact ⟨items, read⟩
  · cases read

theorem ofPart_of_load {yaml : Yaml.Reader} {files : Files.Tree} {setting : Option String}
    {path : String} {manifest : Manifest} (loaded : load yaml files setting path = .ok manifest) :
    ∃ document, ofPart (isOn setting) document = .ok manifest := by
  obtain ⟨document, _, read⟩ := ok_of_bind loaded
  exact ⟨document, ok_of_mapError read⟩

section
variable (primitives : List (Loose × Bool))

/-- The names under which primitives are registered, in their order. -/
def keys : List Loose := primitives.map (TypeName.key ·.1)

theorem names_seeded :
    ((Registry.seeded primitives).entries.map (·.name)).Perm (keys primitives).dedup := by
  have distinct := Registry.distinct_foldl_seed primitives (r := {}) List.nodup_nil
  refine (List.perm_ext_iff_of_nodup distinct (List.nodup_dedup _)).mpr fun key => ?_
  have named : key ∈ (Registry.seeded primitives).entries.map (·.name) ↔
      (Registry.seeded primitives).has key := by
    rw [Registry.has_iff, List.mem_map]
  have called : (Registry.seeded primitives).has key ↔ ∃ p ∈ primitives, TypeName.key p.1 = key :=
    Registry.has_foldl_seed_iff.trans (or_iff_right Bool.false_ne_true)
  exact (named.trans (called.trans List.mem_map.symm)).trans List.mem_dedup.symm

theorem size_seeded : (Registry.seeded primitives).size = (keys primitives).dedup.length := by
  have same := (names_seeded primitives).length_eq
  rwa [List.length_map] at same

variable {primitives}

theorem length_dedup_keys_iff :
    (keys primitives).dedup.length = primitives.length ↔ (keys primitives).Nodup := by
  have length : (keys primitives).length = primitives.length := List.length_map _
  rw [← length, ← List.dedup_eq_self]
  exact ⟨(List.dedup_sublist _).eq_of_length, congrArg List.length⟩

/-- The entry under a listed name is that of the first primitive which is registered under it. -/
theorem entry?_seeded {p : Loose × Bool} (listed : p ∈ primitives) :
    ∃ first, primitives.find? (TypeName.key ·.1 = TypeName.key p.1) = some first ∧
      Registry.entry? (Registry.seeded primitives) (TypeName.key p.1) =
        some (.primitive (TypeName.key p.1) first.2) := by
  have some : (primitives.find? (TypeName.key ·.1 = TypeName.key p.1)).isSome :=
    List.find?_isSome.mpr ⟨p, listed, decide_eq_true rfl⟩
  obtain ⟨first, found⟩ := Option.isSome_iff_exists.mp some
  refine ⟨first, found, ?_⟩
  rw [Registry.seeded, Registry.entry?_foldl_seed, found]
  rfl

theorem entry?_seeded_of_nodup (distinct : (keys primitives).Nodup) {p : Loose × Bool}
    (listed : p ∈ primitives) :
    Registry.entry? (Registry.seeded primitives) (TypeName.key p.1) =
      some (.primitive (TypeName.key p.1) p.2) := by
  obtain ⟨first, found, entry⟩ := entry?_seeded listed
  have same : TypeName.key first.1 = TypeName.key p.1 := by simpa using List.find?_some found
  rw [entry, List.inj_on_of_nodup_map distinct (List.mem_of_find?_eq_some found) listed same]

end

/-- The primitives of a manifest have different names, but a registry tells names apart by their
canonical spelling alone: it has one entry for each, that of the first primitive so called. All
primitives are registered with their flags just if no two have one canonical spelling. -/
theorem load_seeds {yaml : Yaml.Reader} {files : Files.Tree} {setting : Option String}
    {path : String} {manifest : Manifest} {primitives : List (Loose × Bool)}
    (loaded : load yaml files setting path = .ok manifest)
    (listed : manifest.primitives = some primitives) (tags : Registry.Tags) (check : SyntaxCheck) :
    (primitives.map (·.1)).Nodup ∧
      ∃ count scan, (Scan.insertPrimitives primitives).Ends (Scan.fresh tags check) (.ok count) scan ∧
        scan.registry.size = count ∧ count = (keys primitives).dedup.length ∧
        (count = primitives.length ↔ (keys primitives).Nodup) ∧
        (∀ p ∈ primitives, ∃ first,
          primitives.find? (TypeName.key ·.1 = TypeName.key p.1) = some first ∧
          scan.registry.entry? (TypeName.key p.1) = some (.primitive (TypeName.key p.1) first.2)) ∧
        ((keys primitives).Nodup → ∀ p ∈ primitives,
          scan.registry.entry? (TypeName.key p.1) = some (.primitive (TypeName.key p.1) p.2)) := by
  obtain ⟨document, read⟩ := ofPart_of_load loaded
  obtain ⟨items, read⟩ := readPrimitives_of_ofPart read listed
  have ends := Scan.insertPrimitives_ends_size primitives tags check
  have size := size_seeded primitives
  refine ⟨(nodup_of_readPrimitives read).1, _, _, ends, rfl, size, ?_, fun p => entry?_seeded,
    fun distinct p => entry?_seeded_of_nodup distinct⟩
  rw [← length_dedup_keys_iff, ← size]

def withManifest (text : String) : Files.Tree :=
  (Files.Tree.withoutFiles ["w"]).withFile "m.json" text.toUTF8.toList

/-- Two primitives, of which the second is listed under an unusual spelling. -/
def textManifest : String :=
  "\x7b\"headers\": [\"a.h\"], \"primitives\": [" ++
    "\x7b\"name\": \"int\", \"compatible\": true\x7d, " ++
    "\x7b\"name\": \"const char*\", \"compatible\": false\x7d]\x7d"

theorem load_seeds_textManifest :
    load Yaml.read (withManifest textManifest) none "m.json" =
        .ok ⟨["a.h"], ".", some [("int", true), ("const char*", false)], none, "output/abi_model.json",
          "output/run_reports", true⟩ ∧
      ∃ scan, (Scan.insertPrimitives [("int", true), ("const char*", false)]).Ends
          (Scan.fresh none .off) (.ok 2) scan ∧
        scan.registry.size = 2 ∧
        scan.registry.entry? "const char *" = some (.primitive "const char *" false) := by
  have loaded : load Yaml.read (withManifest textManifest) none "m.json" =
      .ok ⟨["a.h"], ".", some [("int", true), ("const char*", false)], none, "output/abi_model.json",
        "output/run_reports", true⟩ := by decide +kernel
  obtain ⟨-, count, scan, ends, size, -, all, -, own⟩ := load_seeds loaded rfl none .off
  have distinct : (keys [("int", true), ("const char*", false)]).Nodup := by decide +kernel
  have two : count = 2 := all.mpr distinct
  have spelled : TypeName.key "const char*" = "const char *" := by decide +kernel
  have entry := own distinct ("const char*", false) (by decide)
  rw [spelled] at entry
  exact ⟨loaded, scan, two ▸ ends, two ▸ size, entry⟩

/-- One type under two spellings, with two flags. -/
def twiceManifest : String :=
  "\x7b\"headers\": [\"a.h\"], \"primitives\": [" ++
    "\x7b\"name\": \"const char*\", \"compatible\": false\x7d, " ++
    "\x7b\"name\": \"const char *\", \"compatible\": true\x7d]\x7d"

/-- Only the first of two spellings counts, and the flag of the second one is lost. -/
theorem load_seeds_once :
    load Yaml.read (withManifest twiceManifest) none "m.json" =
        .ok ⟨["a.h"], ".", some [("const char*", false), ("const char *", true)], none,
          "output/abi_model.json", "output/run_reports", true⟩ ∧
      ∃ scan, (Scan.insertPrimitives [("const char*", false), ("const char *", true)]).Ends
          (Scan.fresh none .off) (.ok 1) scan ∧
        scan.registry.entries = [.primitive "const char *" false] := by
  refine ⟨by decide +kernel, _, ⟨?_, rfl⟩, ?_⟩
  · decide +kernel
  · decide +kernel

end HeaderTypes.Manifest
