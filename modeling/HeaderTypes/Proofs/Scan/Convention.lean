import HeaderTypes.Proofs.Field.Convention
import HeaderTypes.Proofs.Scan.Braces
import HeaderTypes.Proofs.Scan.Duplicates

namespace HeaderTypes
open Declaration

/-- Of statements with the structs they stand in, one is the first that is barred. -/
def FirstBarred (accepted : List String) (met : List (String × String))
    (struct statement : String) : Prop :=
  ∃ early late, met = early ++ (struct, statement) :: late ∧
    (∀ other ∈ early, ¬ Barred accepted other.2) ∧ Barred accepted statement

namespace FirstBarred
variable {accepted : List String} {met : List (String × String)} {struct statement : String}

theorem append_right (first : FirstBarred accepted met struct statement)
    (later : List (String × String)) : FirstBarred accepted (met ++ later) struct statement := by
  obtain ⟨early, late, rfl, free, barred⟩ := first
  exact ⟨early, late ++ later, by simp, free, barred⟩

theorem append_left (first : FirstBarred accepted met struct statement)
    {before : List (String × String)} (free : ∀ other ∈ before, ¬ Barred accepted other.2) :
    FirstBarred accepted (before ++ met) struct statement := by
  obtain ⟨early, late, rfl, free', barred⟩ := first
  exact ⟨before ++ early, late, by simp, List.forall_mem_append.mpr ⟨free, free'⟩, barred⟩

end FirstBarred

namespace Scan
open HeaderTypes.Action Registry

/-- A scan that accepts other conventions and is otherwise the same. -/
def under (scan : Scan) (tags : Tags) : Scan := { scan with tags }

/-- The statements of a struct definition, each with the name of the struct. -/
def statementsOf (block : StructBlock) : List (String × String) :=
  (statements block.body).map (block.name, ·)

/-- The statements of the struct definitions that are not skipped while findings are taken, in
their order, each with the name of its struct. -/
def statementsMet (origin : String) : List Finding → Scan → List (String × String)
  | [], _ => []
  | .block block :: findings, scan =>
    (if scan.registry.contains block.name then [] else statementsOf block) ++
      statementsMet origin findings ((takeBlock origin block).run scan).state
  | _ :: findings, scan => statementsMet origin findings scan

theorem not_barred_statementsOf_iff {accepted : List String} {block : StructBlock} :
    (∀ met ∈ statementsOf block, ¬ Barred accepted met.2) ↔
      ∀ statement ∈ statements block.body, ¬ Barred accepted statement :=
  List.forall_mem_map

section
variable {accepted : List String} {r : Registry} {block : StructBlock}

/-- A definition that can be registered is registered alike under a list of conventions, or it is
refused for the first of its statements that is barred. -/
theorem registered_or_barred (accepted : List String) (reg : Registration none r block) :
    ((∀ met ∈ statementsOf block, ¬ Barred accepted met.2) ∧
      ∃ reg' : Registration (some accepted) r block, reg'.parts = reg.parts) ∨
    ∃ statement, FirstBarred accepted (statementsOf block) block.name statement ∧
      Refuses (some accepted) r block (.malformedField block.name statement) := by
  have trimmed : ∀ statement ∈ statements block.body,
      Text.trim statement.toList = statement.toList := fun _ => trim_of_mem_statements
  rcases reads_or_unread accepted reg.reads trimmed with
    ⟨free, reads⟩ | ⟨early, statement, late, split, free, barred, unread⟩
  · exact Or.inl ⟨not_barred_statementsOf_iff.mpr free,
      ⟨reg.parts, reg.named, reg.free, reads, reg.fresh, reg.distinct⟩, rfl⟩
  · refine Or.inr ⟨statement, ⟨early.map (block.name, ·), late.map (block.name, ·), ?_, ?_, barred⟩,
      .unread unread⟩
    · rw [statementsOf, split, List.map_append, List.map_cons]
    · exact List.forall_mem_map.mpr free

theorem TakesBlock.register_under {scan : Scan} {tags : Tags}
    (reg : Registration scan.tags scan.registry block) (reg' : Registration tags scan.registry block)
    (same : reg'.parts = reg.parts) :
    TakesBlock (scan.under tags) block [block.name] ((scan.registering reg).under tags) := by
  have taken := @TakesBlock.register (scan.under tags) block reg'
  have left : (scan.under tags).registering reg' = (scan.registering reg).under tags := by
    obtain ⟨parts, named, free, reads, fresh, distinct⟩ := reg
    obtain ⟨parts', named', free', reads', fresh', distinct'⟩ := reg'
    cases same
    rfl
  rwa [left] at taken

end

section
variable {scan after : Scan} {block : StructBlock} {added : List String} {accepted : List String}

theorem TakesBlock.under_none (takes : TakesBlock scan block added after)
    (listed : scan.tags = some accepted) :
    TakesBlock (scan.under none) block added (after.under none) := by
  obtain ⟨registry, tags, check, stats, started⟩ := scan
  cases listed
  cases takes with
  | skip taken => exact .skip taken
  | register reg =>
    have reads := forall₂_reads_none reg.reads fun _ => trim_of_mem_statements
    exact .register_under reg ⟨reg.parts, reg.named, reg.free, reads, reg.fresh, reg.distinct⟩ rfl

theorem Takes.under_none {findings : List Finding} {names : List String}
    (takes : Takes scan findings names after) (listed : scan.tags = some accepted) :
    Takes (scan.under none) findings names (after.under none) := by
  induction takes with
  | done => exact .done
  | forward _ ih => exact .forward (ih listed)
  | block first _ ih => exact .block (first.under_none listed) (ih (first.tags_eq.trans listed))

/-- The statements of a block that adds some names, which is none if it is skipped. -/
def statementsBehind (added : List String) (block : StructBlock) : List (String × String) :=
  if added = [] then [] else statementsOf block

theorem TakesBlock.statementsMet_eq (takes : TakesBlock scan block added after)
    (thawed : scan.registry.frozen = false) (named : Text.isName block.name.toList)
    (origin : String) (findings : List Finding) :
    statementsMet origin (.block block :: findings) scan =
      statementsBehind added block ++ statementsMet origin findings after := by
  cases takes with
  | skip taken =>
    have left := (takeBlock_ends_of_has origin named taken).2
    rw [statementsMet, left, contains_of_isName named, if_pos taken]
    rfl
  | register reg =>
    have left := (takeBlock_ends_of_registration origin thawed reg).2
    rw [statementsMet, left, contains_of_isName named, reg.free]
    rfl

/-- A block that is taken under all conventions is taken alike under a list of them, or refused for
the first of its statements that is barred. -/
theorem TakesBlock.under_some (takes : TakesBlock scan block added after) (free : scan.tags = none)
    (accepted : List String) :
    ((∀ met ∈ statementsBehind added block, ¬ Barred accepted met.2) ∧
      TakesBlock (scan.under (some accepted)) block added (after.under (some accepted))) ∨
    ∃ statement, scan.registry.has block.name = false ∧
      FirstBarred accepted (statementsBehind added block) block.name statement ∧
      Refuses (some accepted) scan.registry block (.malformedField block.name statement) := by
  obtain ⟨registry, tags, check, stats, started⟩ := scan
  cases free
  cases takes with
  | skip taken => exact Or.inl ⟨nofun, .skip taken⟩
  | register reg =>
    rcases registered_or_barred accepted reg with ⟨free, reg', same⟩ | ⟨statement, first, refuses⟩
    · exact Or.inl ⟨free, .register_under reg reg' same⟩
    · exact Or.inr ⟨statement, reg.free, first, refuses⟩

/-- Findings that are taken under all conventions are taken alike under a list of them, up to the
first block with a statement that is barred. -/
theorem Takes.under_some {findings : List Finding} {names : List String}
    (takes : Takes scan findings names after) (free : scan.tags = none)
    (thawed : scan.registry.frozen = false) (named : ∀ finding ∈ findings, finding.Named)
    (accepted : List String) (origin : String) :
    ((∀ met ∈ statementsMet origin findings scan, ¬ Barred accepted met.2) ∧
      Takes (scan.under (some accepted)) findings names (after.under (some accepted))) ∨
    ∃ before block later names', ∃ here : Scan, ∃ statement,
      findings = before ++ .block block :: later ∧
      Takes (scan.under (some accepted)) before names' (here.under (some accepted)) ∧
      here.registry.has block.name = false ∧
      Refuses (some accepted) here.registry block (.malformedField block.name statement) ∧
      FirstBarred accepted (statementsMet origin findings scan) block.name statement := by
  induction takes with
  | done => exact Or.inl ⟨nofun, .done⟩
  | @forward _ line _ _ _ _ ih =>
    rcases ih free thawed (List.forall_mem_cons.mp named).2 with ⟨clear, takes⟩ |
      ⟨before, block, later, names', here, statement, rfl, takes, stops⟩
    · exact Or.inl ⟨clear, .forward takes⟩
    · exact Or.inr ⟨.forward line :: before, block, later, names', here, statement, rfl,
        .forward takes, stops⟩
  | @block _ block _ _ findings _ _ first _ ih =>
    obtain ⟨name, others⟩ := List.forall_mem_cons.mp named
    rw [first.statementsMet_eq thawed name]
    rcases first.under_some free accepted with ⟨clear, first'⟩ | ⟨statement, unknown, barred, refuses⟩
    · rcases ih (first.tags_eq.trans free) (first.frozen_eq.trans thawed) others with
        ⟨clear', takes⟩ |
          ⟨before, failing, later, names', here, statement, rfl, takes, unknown, refuses, barred⟩
      · exact Or.inl ⟨List.forall_mem_append.mpr ⟨clear, clear'⟩, .block first' takes⟩
      · exact Or.inr ⟨.block block :: before, failing, later, _, here, statement, rfl,
          .block first' takes, unknown, refuses, barred.append_left clear⟩
    · exact Or.inr ⟨[], block, findings, [], _, statement, rfl, .done, unknown, refuses,
        barred.append_right _⟩

end

/-- Accepted conventions only take away. A header that is scanned under a list of them is scanned
under all of them, with the same outcome. One that is scanned under all of them is scanned under the
list with the same outcome, or it is refused for the first function pointer in it that is under
another convention: how statements are read does not depend on the list, and one that is barred is
refused although there may be other ways to read it. -/
theorem takeHeader_under (scan : Scan) (accepted : List String) (text origin : String) :
    (∀ names after, (takeHeader text origin).Ends (scan.under (some accepted)) (.ok names) after →
      (takeHeader text origin).Ends (scan.under none) (.ok names) (after.under none)) ∧
    (∀ names after, (takeHeader text origin).Ends (scan.under none) (.ok names) after →
      let met := statementsMet origin (Header.findings text) (scan.under none).starting
      (∀ each ∈ met, ¬ Barred accepted each.2) ∧
        (takeHeader text origin).Ends (scan.under (some accepted)) (.ok names)
          (after.under (some accepted)) ∨
      ∃ struct statement left, FirstBarred accepted met struct statement ∧
        (takeHeader text origin).Ends (scan.under (some accepted))
          (.error (.malformedField struct statement)) left) ∧
    ∀ struct statement : String, Text.trim statement.toList = statement.toList →
      (Barred accepted statement → ∀ r, (readField (some accepted) struct statement).Ends r
        (.error (.malformedField struct statement)) r) ∧
      (¬ Barred accepted statement →
        readField (some accepted) struct statement = readField none struct statement) := by
  refine ⟨fun names after ends => ?_, fun names after ends => ?_, fun struct statement trimmed =>
    ⟨fun barred r => readField_ends_of_barred trimmed barred r struct,
      fun free => readField_of_not_barred trimmed free struct⟩⟩
  · obtain ⟨thawed, between, takes, rfl⟩ := takeHeader_ok_iff.mp ends
    exact takeHeader_ok_iff.mpr ⟨thawed, between.under none, takes.under_none rfl, rfl⟩
  · intro met
    obtain ⟨thawed, between, takes, rfl⟩ := takeHeader_ok_iff.mp ends
    have thawed' : (scan.under (some accepted)).registry.frozen = false := thawed
    have named := Header.named_of_mem_findings text
    rcases takes.under_some rfl thawed named accepted origin with ⟨clear, takes'⟩ |
      ⟨before, block, later, names', here, statement, split, takes', unknown, refuses, first⟩
    · exact Or.inl ⟨clear, takeHeader_ok_iff.mpr ⟨thawed, _, takes', rfl⟩⟩
    · obtain ⟨early, name⟩ := named_of_split split
      have taken := takes'.ends origin thawed early
      have stopped := takeFindings_ends_of_refuses taken name unknown refuses later
      rw [← split] at stopped
      exact Or.inr ⟨block.name, statement, _, first,
        (takeHeader_ends_iff thawed').mpr (Or.inr ⟨_, stopped, rfl⟩)⟩

/-- A scan of headers that name `int` and one signature of it, under a list of conventions. -/
def underA : Scan :=
  { registry := { entries := [.primitive "int" true, .primitive "int (A * h)(int)" true] },
    tags := some ["A"] }

/-- The header `pointed` holds a function pointer under `A`. -/
def pointed : String := "typedef struct { int (A *f)(int); } a_t;"

/-- After a function pointer under `A`, one under `B` whose parameter is written as a function
pointer under `A`. -/
def nested : String :=
  "typedef struct { int (A *f)(int); } a_t;\ntypedef struct { int (B *g)(int (A *h)(int)); } b_t;"

theorem takeHeader_under_nested :
    (∃ after, (takeHeader pointed "h").Ends (underA.under (some ["A"])) (.ok ["a_t"]) after ∧
      (takeHeader pointed "h").Ends (underA.under none) (.ok ["a_t"]) (after.under none)) ∧
    (∃ after, (takeHeader nested "h").Ends (underA.under none) (.ok ["a_t", "b_t"]) after) ∧
    (∃ p, Pointer "int (B *g)(int (A *h)(int))".toList p ∧ String.ofList p.tag ∈ ["A"]) ∧
    ∃ struct statement left,
      FirstBarred ["A"] (statementsMet "h" (Header.findings nested) (underA.under none).starting)
        struct statement ∧
      (takeHeader nested "h").Ends (underA.under (some ["A"]))
        (.error (.malformedField struct statement)) left := by
  have listed : (takeHeader pointed "h").Ends (underA.under (some ["A"])) (.ok ["a_t"])
      ((takeHeader pointed "h").run (underA.under (some ["A"]))).state := ⟨by decide +kernel, rfl⟩
  have all : (takeHeader nested "h").Ends (underA.under none) (.ok ["a_t", "b_t"])
      ((takeHeader nested "h").run (underA.under none)).state := ⟨by decide +kernel, rfl⟩
  have trimmed : Text.trim "int (B *g)(int (A *h)(int))".toList =
      "int (B *g)(int (A *h)(int))".toList := by decide +kernel
  have inner : Pointer "int (B *g)(int (A *h)(int))".toList
      ⟨"int (B *g)(int".toList, "A".toList, "h".toList, "int)".toList⟩ :=
    (pointer_iff (Text.visible_of_trim trimmed).2).mpr
      ⟨" (A *h)(int))".toList, by decide +kernel, by decide +kernel⟩
  refine ⟨⟨_, listed, (takeHeader_under underA ["A"] pointed "h").1 _ _ listed⟩, ⟨_, all⟩,
    ⟨_, inner, by decide +kernel⟩, ?_⟩
  rcases (takeHeader_under underA ["A"] nested "h").2.1 _ _ all with ⟨-, taken⟩ | refused
  · exact absurd taken.1 (by decide +kernel)
  · exact refused

end Scan

end HeaderTypes
