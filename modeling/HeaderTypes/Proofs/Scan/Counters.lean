import HeaderTypes.Proofs.Scan.Steps

namespace HeaderTypes

/-- The number of blocks that were registered or passed over. -/
def Stats.structsTaken (stats : Stats) : Nat := stats.structsRegistered + stats.structsSkipped

namespace Scan
open HeaderTypes.Action Registry Relation

/-- The counters of structs tell what the registry holds. -/
structure Counted (scan : Scan) : Prop where
  registered : scan.stats.structsRegistered = scan.registry.structs.length
  compatible : scan.stats.structsCompatible = scan.registry.structs.countP (·.compatible)

theorem counted_fresh (tags : Tags) (check : SyntaxCheck) : (fresh tags check).Counted := ⟨rfl, rfl⟩

theorem structs_of_primitive {r : Registry} (base : r.Primitive) : r.structs = [] := by
  refine List.filter_eq_nil_iff.mpr fun d member isStruct => ?_
  rw [Descriptor.isStruct, base d member] at isStruct
  cases isStruct

theorem structs_registration {tags : Tags} {r : Registry} {block : StructBlock}
    (reg : Registration tags r block) : reg.registry.structs = r.structs ++ [reg.struct] := by
  have none : reg.signatures.filter (·.isStruct) = [] :=
    List.filter_eq_nil_iff.mpr fun _ member => reg.not_isStruct_of_mem_signatures member
  rw [structs, Registration.registry, extend_entries, List.filter_append, List.filter_append, none]
  rfl

theorem TakesBlock.counted {scan after : Scan} {block : StructBlock} {added : List String}
    (takes : TakesBlock scan block added after) (counted : scan.Counted) : after.Counted := by
  cases takes with
  | skip => exact ⟨counted.registered, counted.compatible⟩
  | register reg =>
    have structs : reg.registry.structs = scan.registry.structs ++ [reg.struct] :=
      structs_registration reg
    constructor
    · change scan.stats.structsRegistered + 1 = reg.registry.structs.length
      rw [structs, counted.registered, List.length_append, List.length_singleton]
    · change scan.stats.structsCompatible + (if reg.compatible then 1 else 0) =
        reg.registry.structs.countP (·.compatible)
      rw [structs, counted.compatible, List.countP_append, List.countP_singleton]
      rfl

theorem Step.counted {scan after : Scan} (step : Step scan after) (counted : scan.Counted) :
    after.Counted := by
  cases step with
  | @seed registry base base' _ =>
    have none := structs_of_primitive base
    have none' := structs_of_primitive base'
    constructor
    · change scan.stats.structsRegistered = registry.structs.length
      rw [none', counted.registered, none]
    · change scan.stats.structsCompatible = registry.structs.countP (·.compatible)
      rw [none', counted.compatible, none]
  | begin => exact ⟨counted.registered, counted.compatible⟩
  | diagnose check errors => exact ⟨counted.registered, counted.compatible⟩
  | block takes => exact takes.counted counted
  | finish => exact ⟨counted.registered, counted.compatible⟩
  | close => exact ⟨counted.registered, counted.compatible⟩

theorem Counted.of_steps {scan after : Scan} (counted : scan.Counted)
    (steps : ReflTransGen Step scan after) : after.Counted := by
  induction steps with
  | refl => exact counted
  | tail _ step ih => exact step.counted ih

theorem Reach.counted {tags : Tags} {check : SyntaxCheck} {scan : Scan}
    (reach : Reach (fresh tags check) scan) : scan.Counted :=
  (counted_fresh tags check).of_steps (reach.steps (ready_fresh tags check))

/-- How many blocks are taken one after the other, up to the first that is refused. -/
def blocksTaken (origin : String) : List Finding → Scan → Nat
  | .block block :: findings, scan =>
    let outcome := (takeBlock origin block).run scan
    match outcome.result with
    | .ok _ => 1 + blocksTaken origin findings outcome.state
    | .error _ => 0
  | .forward _ :: findings, scan => blocksTaken origin findings scan
  | .malformed _ :: _, _ => 0
  | [], _ => 0

section
variable {scan after : Scan} {origin : String} {block : StructBlock} {findings : List Finding}

theorem blocksTaken_of_ok {added : Bool} (ends : (takeBlock origin block).Ends scan (.ok added) after) :
    blocksTaken origin (.block block :: findings) scan = 1 + blocksTaken origin findings after := by
  simp only [blocksTaken, ends.1, ends.2]

theorem blocksTaken_of_error {cause : Failure}
    (ends : (takeBlock origin block).Ends scan (.error cause) after) :
    blocksTaken origin (.block block :: findings) scan = 0 := by
  simp only [blocksTaken, ends.1]

theorem TakesBlock.structsTaken_eq {added : List String} (takes : TakesBlock scan block added after) :
    after.stats.structsTaken = scan.stats.structsTaken + 1 := by
  cases takes with
  | skip => exact (Nat.add_assoc ..).symm
  | register reg => exact Nat.succ_add ..

/-- However taking findings ends, each block that was taken is counted and no other. -/
theorem takeFindings_structsTaken (thawed : scan.registry.frozen = false)
    (named : ∀ finding ∈ findings, finding.Named) {result : Except Failure (List String)}
    (ends : (takeFindings origin findings).Ends scan result after) :
    after.stats.structsTaken = scan.stats.structsTaken + blocksTaken origin findings scan := by
  induction findings generalizing scan result with
  | nil =>
    obtain ⟨_, rfl⟩ := ends
    rfl
  | cons finding findings ih =>
    obtain ⟨name, others⟩ := List.forall_mem_cons.mp named
    cases finding with
    | malformed block =>
      obtain ⟨_, rfl⟩ := ends
      rfl
    | forward line => exact ih thawed others (ends_tell_bind_iff.mp ends)
    | block block =>
      rcases takeBlock_cases origin thawed name with ⟨added, between, taken, takes⟩ |
        ⟨cause, refused, _⟩
      · have one := takes.structsTaken_eq
        have rest (result : Except Failure (List String))
            (ends : (takeFindings origin findings).Ends between result after) :=
          ih (takes.frozen_eq.trans thawed) others ends
        rw [blocksTaken_of_ok taken]
        rcases ends_bind_iff.mp ((ends_bind_of_ends taken).mp ends) with
          ⟨names, last, ends', _, rfl⟩ | ⟨cause, refused, _⟩
        · have more := rest _ ends'
          omega
        · have more := rest _ refused
          omega
      · have left := (refused.bind_error.unique ends).2
        rw [blocksTaken_of_error refused, ← left]
        rfl

theorem takeFindings_headersScanned (thawed : scan.registry.frozen = false)
    (named : ∀ finding ∈ findings, finding.Named) {result : Except Failure (List String)}
    (ends : (takeFindings origin findings).Ends scan result after) :
    after.stats.headersScanned = scan.stats.headersScanned := by
  rcases takeFindings_cases origin scan thawed named with ⟨names, left, takes⟩ |
    ⟨cause, left, before, failing, later, names, refused, _, takes, _⟩
  · rw [(ends.unique (takes.ends origin thawed named)).2]
    exact takes.headersScanned_eq
  · rw [(ends.unique refused).2]
    exact takes.headersScanned_eq

theorem blocksTaken_change {change : Scan → Scan} (isAside : IsAside change)
    (thawed : scan.registry.frozen = false) (named : ∀ finding ∈ findings, finding.Named) :
    blocksTaken origin findings (change scan) = blocksTaken origin findings scan := by
  induction findings generalizing scan with
  | nil => rfl
  | cons finding findings ih =>
    obtain ⟨name, others⟩ := List.forall_mem_cons.mp named
    cases finding with
    | malformed block => rfl
    | forward line => exact ih thawed others
    | block block =>
      obtain ⟨result, after, ends⟩ := Ends.exists (takeBlock origin block) scan
      have ends' := isAside.takeBlock thawed name ends
      cases result with
      | ok added =>
        have thawed' := takeBlock_thawed ends thawed name
        rw [blocksTaken_of_ok ends, blocksTaken_of_ok ends', ih thawed' others]
      | error cause => rw [blocksTaken_of_error ends, blocksTaken_of_error ends']

end

/-- Whether an operation returned normally, as a number. -/
def returned {α : Type} : Except Failure α → Nat
  | .ok _ => 1
  | .error _ => 0

/-- How many blocks of a header are taken before the scan ends or stops. -/
def headerBlocksTaken (text origin : String) (scan : Scan) : Nat :=
  if scan.registry.frozen then 0 else blocksTaken origin (Header.findings text) scan.starting

section
variable {scan after : Scan} {text origin : String} {result : Except Failure (List String)}

theorem takeHeader_counts (ends : (takeHeader text origin).Ends scan result after) :
    after.stats.structsTaken = scan.stats.structsTaken + headerBlocksTaken text origin scan ∧
      after.stats.headersScanned = scan.stats.headersScanned + returned result := by
  cases frozen : scan.registry.frozen with
  | true =>
    obtain ⟨rfl, rfl⟩ := ends.unique (takeHeader_ends_of_frozen frozen text origin)
    rw [headerBlocksTaken, frozen, if_pos rfl]
    exact ⟨rfl, rfl⟩
  | false =>
    have named := Header.named_of_mem_findings text
    have thawed : scan.starting.registry.frozen = false := frozen
    rw [headerBlocksTaken, frozen, if_neg Bool.false_ne_true]
    rcases (takeHeader_ends_iff frozen).mp ends with ⟨names, between, taken, rfl, rfl⟩ |
      ⟨cause, refused, rfl⟩
    · have blocks := takeFindings_structsTaken thawed named taken
      have headers := takeFindings_headersScanned thawed named taken
      exact ⟨blocks, congrArg (· + 1) headers⟩
    · have headers := takeFindings_headersScanned thawed named refused
      exact ⟨takeFindings_structsTaken thawed named refused, headers⟩

theorem headerBlocksTaken_diagnosed (check : SyntaxCheck) (errors : Nat) :
    headerBlocksTaken text origin (scan.diagnosed check errors) =
      headerBlocksTaken text origin scan := by
  unfold headerBlocksTaken
  cases frozen : scan.registry.frozen with
  | true => exact (if_pos frozen).trans (if_pos rfl).symm
  | false =>
    have thawed : scan.starting.registry.frozen = false := frozen
    have same : blocksTaken origin (Header.findings text) (scan.diagnosed check errors).starting =
        blocksTaken origin (Header.findings text) scan.starting :=
      blocksTaken_change (isAside_diagnosed check errors) thawed (Header.named_of_mem_findings text)
    exact (if_neg (Bool.eq_false_iff.mp frozen)).trans same

theorem takeFile_counts {files : Files.Tree} {path : Text.Loose}
    (ends : (takeFile files path).Ends scan result after) :
    after.stats.structsTaken = scan.stats.structsTaken +
        (headerText? files path).elim 0 (headerBlocksTaken · path.text scan) ∧
      after.stats.headersScanned = scan.stats.headersScanned + returned result := by
  rcases takeFile_cases ends with ⟨rfl, none, cause, rfl, _⟩ | ⟨text, check, errors, some, ends⟩
  · rw [none]
    exact ⟨rfl, rfl⟩
  · obtain ⟨blocks, headers⟩ := takeHeader_counts ends
    rw [headerBlocksTaken_diagnosed] at blocks
    rw [some]
    exact ⟨blocks, headers⟩

end

/-- How many blocks an operation takes, each of them registered or passed over. -/
def Operation.blocksTaken : Operation → Scan → Nat
  | header text origin, scan => headerBlocksTaken text origin scan
  | file files path, scan => (headerText? files path).elim 0 (headerBlocksTaken · path.text scan)
  | _, _ => 0

/-- How many headers an operation scans to the end. -/
def Operation.headersTaken : Operation → Scan → Nat
  | header text origin, scan => returned ((takeHeader text origin).run scan).result
  | file files path, scan => returned ((takeFile files path).run scan).result
  | _, _ => 0

/-- Blocks and headers are counted when they are taken, and never else. -/
theorem Operation.counts (operation : Operation) (scan : Scan) :
    (operation.after scan).stats.structsTaken =
        scan.stats.structsTaken + operation.blocksTaken scan ∧
      (operation.after scan).stats.headersScanned =
        scan.stats.headersScanned + operation.headersTaken scan := by
  have quiet {after : Scan} (same : after.stats = scan.stats) :
      after.stats.structsTaken = scan.stats.structsTaken + 0 ∧
        after.stats.headersScanned = scan.stats.headersScanned + 0 := by
    rw [same]
    exact ⟨rfl, rfl⟩
  cases operation with
  | primitive name compatible =>
    have whole : (insertPrimitive name compatible).Ends scan _ _ := ⟨rfl, rfl⟩
    exact quiet (seeding_keeps whole).1
  | primitives all =>
    have whole : (insertPrimitives all).Ends scan _ _ := ⟨rfl, rfl⟩
    exact quiet (seeding_keeps whole).1
  | header text origin => exact takeHeader_counts ⟨rfl, rfl⟩
  | file files path => exact takeFile_counts ⟨rfl, rfl⟩
  | structs => exact quiet rfl
  | model =>
    rw [Operation.after_model]
    exact quiet rfl

/-- What operations leave behind, one after the other. -/
def afterAll (operations : List Operation) (scan : Scan) : Scan :=
  operations.foldl (fun scan operation => operation.after scan) scan

/-- What operations add up to, each of them measured where it starts. -/
def total (measure : Operation → Scan → Nat) : List Operation → Scan → Nat
  | [], _ => 0
  | operation :: operations, scan =>
    measure operation scan + total measure operations (operation.after scan)

theorem Reach.afterAll {initial scan : Scan} (reach : Reach initial scan)
    (operations : List Operation) : Reach initial (afterAll operations scan) := by
  induction operations generalizing scan with
  | nil => exact reach
  | cons operation operations ih => exact ih (reach.next operation)

theorem afterAll_counts (operations : List Operation) (scan : Scan) :
    (afterAll operations scan).stats.structsTaken =
        scan.stats.structsTaken + total Operation.blocksTaken operations scan ∧
      (afterAll operations scan).stats.headersScanned =
        scan.stats.headersScanned + total Operation.headersTaken operations scan := by
  induction operations generalizing scan with
  | nil => exact ⟨rfl, rfl⟩
  | cons operation operations ih =>
    obtain ⟨blocks, headers⟩ := operation.counts scan
    obtain ⟨blocks', headers'⟩ := ih (operation.after scan)
    simp only [afterAll, total, List.foldl_cons] at blocks' headers' ⊢
    omega

/-- Whatever is asked of a scan and however it ends, the counters of structs
tell what is registered, the blocks that are counted are those that were taken
one by one, and the headers are those that were scanned to the end. -/
theorem stats_afterAll (tags : Tags) (check : SyntaxCheck) (operations : List Operation) :
    let scan := afterAll operations (fresh tags check)
    scan.stats.structsRegistered = scan.registry.structs.length ∧
      scan.stats.structsCompatible = scan.registry.structs.countP (·.compatible) ∧
      scan.stats.structsRegistered + scan.stats.structsSkipped =
        total Operation.blocksTaken operations (fresh tags check) ∧
      scan.stats.headersScanned = total Operation.headersTaken operations (fresh tags check) := by
  intro scan
  have reach : Reach (fresh tags check) scan := Reach.start.afterAll operations
  obtain ⟨blocks, headers⟩ := afterAll_counts operations (fresh tags check)
  exact ⟨reach.counted.registered, reach.counted.compatible, blocks.trans (Nat.zero_add _),
    headers.trans (Nat.zero_add _)⟩

/-- The same header twice: its first block is registered and then passed over,
and its second one is refused both times. -/
example :
    let operations : List Operation :=
      [.primitive "int" true, .header brokenHeader "h", .header brokenHeader "h"]
    total Operation.blocksTaken operations (fresh none .off) = 2 ∧
      total Operation.headersTaken operations (fresh none .off) = 0 := by
  decide +kernel

end Scan

end HeaderTypes
