import HeaderTypes.Proofs.Registry.Override
import HeaderTypes.Proofs.Scan.Reach

namespace HeaderTypes

/-- A struct definition spells no type with a dot, so it names no signature. -/
def Finding.Dotless : Finding → Prop
  | .block definition => ∀ type ∈ definition.types, '.' ∉ type.toList
  | _ => True

instance : DecidablePred Finding.Dotless
  | .block definition => inferInstanceAs (Decidable (∀ type ∈ definition.types, '.' ∉ type.toList))
  | .forward _ => isTrue trivial
  | .malformed _ => isTrue trivial

namespace Registry
open HeaderTypes.Action HeaderTypes.TypeName

/-- What primitives of other names add does not depend on one that is there already. -/
theorem foldl_seed_insert {struct : String} (flag frozen : Bool)
    {primitives : List (Text.Loose × Bool)} (other : ∀ p ∈ primitives, key p.1 ≠ struct)
    (before after : List Descriptor) :
    ∃ more, (∀ d ∈ more, d.shape = .primitive ∧ d.name ≠ (struct : Text.Loose)) ∧
      primitives.foldl seed ⟨before ++ after, frozen⟩ = ⟨before ++ (after ++ more), frozen⟩ ∧
      primitives.foldl seed ⟨before ++ .primitive struct flag :: after, frozen⟩ =
        ⟨before ++ .primitive struct flag :: (after ++ more), frozen⟩ := by
  -- what is added goes behind `after`, which therefore grows with the induction
  induction primitives generalizing after with
  | nil => exact ⟨[], nofun, by simp, by simp⟩
  | cons p primitives ih =>
    obtain ⟨here, others⟩ := List.forall_mem_cons.mp other
    have same : has ⟨before ++ .primitive struct flag :: after, frozen⟩ (key p.1) =
        has ⟨before ++ after, frozen⟩ (key p.1) := by
      rw [Bool.eq_iff_iff, has_iff, has_iff]
      simp [Descriptor.primitive, or_and_right, exists_or, Ne.symm here]
    rw [List.foldl_cons, List.foldl_cons, seed, seed, same]
    split
    · exact ih others after
    · obtain ⟨more, fresh, plain, overridden⟩ := ih others (after ++ [.primitive (key p.1) p.2])
      refine ⟨.primitive (key p.1) p.2 :: more, List.forall_mem_cons.mpr ⟨⟨rfl, here⟩, fresh⟩, ?_, ?_⟩
      · simpa [extend] using plain
      · simpa [extend] using overridden

/-- A primitive among others is in the place of a struct that is not there yet. -/
theorem overrides_insert {struct : String} (flag frozen : Bool) {before after : List Descriptor}
    (primitive : ∀ d ∈ before ++ after, d.shape = .primitive ∧ d.name ≠ (struct : Text.Loose)) :
    Overrides struct flag ⟨before ++ after, frozen⟩
      ⟨before ++ .primitive struct flag :: after, frozen⟩ where
  primitive := by
    have early : before.find? (·.name = (struct : Text.Loose)) = none := by
      simpa using fun d listed => (primitive d (List.mem_append_left _ listed)).2
    unfold entry?
    rw [List.find?_append, early, Option.none_or]
    exact List.find?_cons_of_pos (decide_eq_true rfl)
  bare d member _ := by
    rcases List.mem_append.mp member with early | late
    · exact (primitive d (List.mem_append_left _ early)).1
    · rcases List.mem_cons.mp late with rfl | late
      · rfl
      · exact (primitive d (List.mem_append_right _ late)).1
  alike := by
    have dropped : others struct (.primitive struct flag :: after) = others struct after :=
      List.filter_cons_of_neg (by simp [BelongsTo, Descriptor.primitive])
    rw [others_append, others_append, dropped]
    exact List.forall₂_same.mpr fun d _ => Alike.refl _ _ _ d

/-- Primitives alone, with and without an override among them. -/
theorem overrides_seeded {struct : String} (flag : Bool)
    {before after : List (Text.Loose × Bool)} (spelled : canonical struct = struct)
    (other : ∀ p ∈ before ++ after, key p.1 ≠ struct) :
    Overrides struct flag (seeded (before ++ after))
      (seeded (before ++ ((struct : Text.Loose), flag) :: after)) := by
  have early : ∀ p ∈ before, key p.1 ≠ struct := fun p listed =>
    other p (List.mem_append_left _ listed)
  have late : ∀ p ∈ after, key p.1 ≠ struct := fun p listed =>
    other p (List.mem_append_right _ listed)
  obtain ⟨first, fresh, added, _⟩ := foldl_seed_insert flag false early [] []
  obtain ⟨last, fresh', plain, overridden⟩ :=
    foldl_seed_insert flag false late first []
  simp only [List.nil_append, List.append_nil] at added plain overridden
  have free : has ⟨first, false⟩ (key (struct : Text.Loose)) = false := by
    rw [key, Text.Loose.mapText, spelled]
    exact not_has_iff.mpr fun d listed => (fresh d listed).2
  have placed : seed ⟨first, false⟩ ((struct : Text.Loose), flag) =
      ⟨first ++ [.primitive struct flag], false⟩ := by
    rw [seed, if_neg (Bool.eq_false_iff.mp free), key, Text.Loose.mapText, spelled]
    rfl
  have start : before.foldl seed {} = ⟨first, false⟩ := added
  rw [seeded, seeded, List.foldl_append, List.foldl_append, List.foldl_cons, start, placed, plain,
    overridden]
  refine overrides_insert flag false fun d member => ?_
  rcases List.mem_append.mp member with old | new
  · exact fresh d old
  · exact fresh' d new

end Registry

namespace Scan
open HeaderTypes.Action HeaderTypes.TypeName Registry

/-- Beside an override a block does what it did without one, if it is not overridden. -/
theorem TakesBlock.override {scan after : Scan} {block : StructBlock} {added : List String}
    (takes : TakesBlock scan block added after) {registry : Registry} {struct : String} {flag : Bool}
    (overrides : Overrides struct flag scan.registry registry) (named : Text.isName struct.toList)
    (named' : Text.isName block.name.toList) (dotless : ∀ type ∈ block.types, '.' ∉ type.toList)
    (stats : Stats) :
    ∃ registry' stats', TakesBlock { scan with registry, stats } block (added.filter (· ≠ struct))
        { after with registry := registry', stats := stats' } ∧
      Overrides struct flag after.registry registry' := by
  by_cases own : block.name = struct
  · have taken : registry.has block.name := own ▸ overrides.has_struct
    have skipped := @TakesBlock.skip { scan with registry, stats } block taken
    cases takes with
    | skip => exact ⟨_, _, skipped, overrides⟩
    | register reg =>
      have none : [block.name].filter (· ≠ struct) = [] := by simp [own]
      rw [none]
      exact ⟨_, _, skipped, overrides.extend_left fun d member => own ▸ reg.belongsTo_of_mem_added member⟩
  · cases takes with
    | skip taken =>
      have apart : ¬ BelongsTo struct block.name :=
        not_belongsTo_of_dotless (Text.not_mem_of_isName named' rfl) own
      have taken' : registry.has block.name := (overrides.has_eq apart).trans taken
      exact ⟨_, _, @TakesBlock.skip { scan with registry, stats } block taken', overrides⟩
    | register reg =>
      have one : [block.name].filter (· ≠ struct) = [block.name] := by simp [own]
      rw [one]
      have taken := @TakesBlock.register { scan with registry, stats } block
        (overrides.registration reg named own dotless)
      exact ⟨_, _, taken, overrides.register reg named own dotless⟩

theorem Takes.override {scan after : Scan} {findings : List Finding} {names : List String}
    (takes : Takes scan findings names after) {registry : Registry} {struct : String} {flag : Bool}
    (overrides : Overrides struct flag scan.registry registry) (named : Text.isName struct.toList)
    (named' : ∀ finding ∈ findings, finding.Named)
    (dotless : ∀ finding ∈ findings, finding.Dotless) (stats : Stats) :
    ∃ registry' stats', Takes { scan with registry, stats } findings (names.filter (· ≠ struct))
        { after with registry := registry', stats := stats' } ∧
      Overrides struct flag after.registry registry' := by
  induction takes generalizing registry stats with
  | done => exact ⟨registry, stats, .done, overrides⟩
  | forward _ ih =>
    obtain ⟨registry', stats', rest, overrides'⟩ := ih overrides
      (List.forall_mem_cons.mp named').2 (List.forall_mem_cons.mp dotless).2 stats
    exact ⟨registry', stats', rest.forward, overrides'⟩
  | @block scan block added between findings names after first _ ih =>
    obtain ⟨here, named'⟩ := List.forall_mem_cons.mp named'
    obtain ⟨plain, dotless⟩ := List.forall_mem_cons.mp dotless
    obtain ⟨middle, counted, step, overrides'⟩ := first.override overrides named here plain stats
    obtain ⟨registry', stats', rest, last⟩ := ih overrides' named' dotless counted
    refine ⟨registry', stats', ?_, last⟩
    rw [List.filter_append]
    exact .block step rest

/-- What is found up to some finding is taken before it. -/
theorem Takes.append_inv {scan after : Scan} {first last : List Finding} {names : List String}
    (takes : Takes scan (first ++ last) names after) :
    ∃ early late between, Takes scan first early between ∧ Takes between last late after := by
  induction first generalizing scan names with
  | nil => exact ⟨[], names, scan, .done, takes⟩
  | cons finding first ih =>
    cases takes with
    | forward rest =>
      obtain ⟨early, late, between, start, onward⟩ := ih rest
      exact ⟨early, late, between, start.forward, onward⟩
    | block here rest =>
      obtain ⟨early, late, between, start, onward⟩ := ih rest
      exact ⟨_, late, between, .block here start, onward⟩

/-- A block whose name is registered before a header is skipped wherever it stands. -/
theorem Takes.skips {scan after : Scan} {before later : List Finding} {block : StructBlock}
    {names : List String} (takes : Takes scan (before ++ .block block :: later) names after)
    (named : Text.isName block.name.toList)
    (taken : scan.registry.has block.name) (origin : String) :
    ∃ early between, Takes scan before early between ∧
      (takeBlock origin block).Ends between (.ok false) between.skipping := by
  obtain ⟨early, late, between, start, _⟩ := takes.append_inv
  exact ⟨early, between, start,
    takeBlock_ends_of_has origin named (has_of_grows start.grows.1 taken)⟩

/-- A primitive that is made known under the name of a struct overrides it. The
definitions of the struct are skipped and nothing of it is registered. All else
is registered as before, and only the flags of what is made of the struct can be
other ones, if the primitive has another flag. -/
theorem takeHeader_override {struct : String} (named : Text.isName struct.toList) (flag : Bool)
    {before after : List (Text.Loose × Bool)} (other : ∀ p ∈ before ++ after, key p.1 ≠ struct)
    {tags : Tags} {check : SyntaxCheck} {text origin : String}
    (dotless : ∀ finding ∈ Header.findings text, finding.Dotless) {count : Nat} {names : List String}
    {seeded last : Scan}
    (seeds : (insertPrimitives (before ++ after)).Ends (fresh tags check) (.ok count) seeded)
    (scans : (takeHeader text origin).Ends seeded (.ok names) last) :
    ∃ count' seeded' last',
      (insertPrimitives (before ++ ((struct : Text.Loose), flag) :: after)).Ends (fresh tags check)
        (.ok count') seeded' ∧
      (takeHeader text origin).Ends seeded' (.ok (names.filter (· ≠ struct))) last' ∧
      (∀ first block later, Header.findings text = first ++ .block block :: later →
        block.name = struct → ∃ early between, Takes seeded'.starting first early between ∧
          (takeBlock origin block).Ends between (.ok false) between.skipping) ∧
      last'.registry.entry? struct = some (.primitive struct flag) ∧
      (∀ d ∈ last'.registry.entries, BelongsTo struct d.name → d.shape = .primitive) ∧
      List.Forall₂ (last.registry.Alike struct flag) (others struct last.registry.entries)
        (others struct last'.registry.entries) := by
  obtain ⟨_, seeds'⟩ := insertPrimitives_ends_seeded (before ++ after) tags check
  obtain ⟨_, rfl⟩ := seeds.unique seeds'
  obtain ⟨thawed, between, takes, rfl⟩ := takeHeader_ok_iff.mp scans
  obtain ⟨count', overridden⟩ :=
    insertPrimitives_ends_seeded (before ++ ((struct : Text.Loose), flag) :: after) tags check
  have overrides := overrides_seeded flag (TypeName.canonical_of_isName named) other
  have everyNamed := Header.named_of_mem_findings text
  obtain ⟨registry, stats, takes', overrides'⟩ := takes.override overrides named everyNamed dotless {}
  refine ⟨count', _, _, overridden, takeHeader_ok_iff.mpr ⟨?_, _, takes', rfl⟩, ?_,
    overrides'.primitive, overrides'.bare, overrides'.alike⟩
  · exact foldl_seed_frozen _ {}
  · intro first block later split own
    rw [split] at takes' everyNamed
    have here : Text.isName block.name.toList :=
      everyNamed _ (List.mem_append_right _ List.mem_cons_self)
    exact takes'.skips here (own ▸ overrides.has_struct) origin

/-- A struct, one that is made of it alone, and one that is not plain data anyway. -/
def layeredHeader : String :=
  "typedef struct { int a; } n_t;\ntypedef struct { n_t n; } k_t;\n" ++
    "typedef struct { void (T *f)(n_t x); int b; } m_t;"

def ints : List (Text.Loose × Bool) := [("int", true)]

def texts : List (Text.Loose × Bool) := [("char", true), ("const char *", false)]

theorem takeHeader_override_layeredHeader :
    Text.isName "n_t".toList ∧ (∀ p ∈ ints ++ texts, key p.1 ≠ "n_t") ∧
      (∀ finding ∈ Header.findings layeredHeader, finding.Dotless) ∧
      ∃ seeded last,
        (insertPrimitives (ints ++ texts)).Ends (fresh none .off) (.ok 3) seeded ∧
        (takeHeader layeredHeader "h").Ends seeded (.ok ["n_t", "k_t", "m_t"]) last ∧
        ∃ count' seeded' last',
          (insertPrimitives (ints ++ (("n_t" : Text.Loose), false) :: texts)).Ends (fresh none .off)
            (.ok count') seeded' ∧
          (takeHeader layeredHeader "h").Ends seeded' (.ok ["k_t", "m_t"]) last' ∧
          last'.registry.entry? "n_t" = some (.primitive "n_t" false) ∧
          List.Forall₂ (last.registry.Alike "n_t" false) (others "n_t" last.registry.entries)
            (others "n_t" last'.registry.entries) := by
  have other : ∀ p ∈ ints ++ texts, key p.1 ≠ "n_t" := by decide +kernel
  have dotless : ∀ finding ∈ Header.findings layeredHeader, finding.Dotless := by decide +kernel
  have seeds : (insertPrimitives (ints ++ texts)).Ends (fresh none .off) (.ok 3)
      ((insertPrimitives (ints ++ texts)).run (fresh none .off)).state := ⟨by decide +kernel, rfl⟩
  have scans : (takeHeader layeredHeader "h").Ends
      ((insertPrimitives (ints ++ texts)).run (fresh none .off)).state
      (.ok ["n_t", "k_t", "m_t"]) _ := ⟨by decide +kernel, rfl⟩
  obtain ⟨count', seeded', last', seeds', scans', _, stays, _, alike⟩ :=
    takeHeader_override (by decide) false other dotless seeds scans
  exact ⟨by decide, other, dotless, _, _, seeds, scans, count', seeded', last', seeds', scans', stays,
    alike⟩

end Scan

end HeaderTypes
