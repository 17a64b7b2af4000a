import HeaderTypes.Proofs.Model.Shown
import HeaderTypes.Proofs.Scan.Runs

namespace HeaderTypes

namespace Scan
open HeaderTypes.Action Registry Relation

/-- A scan that has passed over a number of blocks whose names are taken. -/
def passing (scan : Scan) (blocks : Nat) : Scan :=
  { scan with stats := { scan.stats with structsSkipped := scan.stats.structsSkipped + blocks } }

theorem passing_skipping (scan : Scan) (blocks : Nat) :
    scan.skipping.passing blocks = scan.passing (blocks + 1) := by
  simp only [passing, skipping, Nat.add_assoc, Nat.add_comm 1 blocks]

theorem TakesBlock.has_name {scan after : Scan} {block : StructBlock} {added : List String}
    (takes : TakesBlock scan block added after) : after.registry.has block.name := by
  cases takes with
  | skip taken => exact taken
  | register reg =>
    exact has_extend.mpr (Or.inr ⟨reg.struct, List.mem_append_right _ List.mem_cons_self, rfl⟩)

/-- Once a header is taken all that it defines is registered, if only by an
entry that was there before. -/
theorem Takes.has_name {scan after : Scan} {findings : List Finding} {names : List String}
    (takes : Takes scan findings names after) {block : StructBlock}
    (found : .block block ∈ findings) : after.registry.has block.name := by
  induction takes with
  | done => cases found
  | forward _ ih =>
    rcases List.mem_cons.mp found with same | later
    · cases same
    · exact ih later
  | block first rest ih =>
    rcases List.mem_cons.mp found with same | later
    · cases same
      exact has_of_grows rest.grows.1 first.has_name
    · exact ih later

/-- Definitions whose names are all taken are passed over, whatever they refer to. -/
theorem takes_of_has {scan : Scan} {findings : List Finding}
    (sound : ∀ block, .malformed block ∉ findings)
    (taken : ∀ block, .block block ∈ findings → scan.registry.has block.name) :
    Takes scan findings [] (scan.passing (findings.filterMap Finding.block?).length) := by
  induction findings generalizing scan with
  | nil => exact .done
  | cons finding findings ih =>
    have sound' : ∀ block, .malformed block ∉ findings := fun block later =>
      sound block (List.mem_cons_of_mem _ later)
    have taken' : ∀ block, .block block ∈ findings → scan.registry.has block.name :=
      fun block later => taken block (List.mem_cons_of_mem _ later)
    cases finding with
    | malformed block => exact absurd List.mem_cons_self (sound block)
    | forward line => exact (ih sound' taken').forward
    | block block =>
      have rest : Takes scan.skipping findings [] _ := ih sound' taken'
      rw [passing_skipping] at rest
      exact .block (.skip (taken block List.mem_cons_self)) rest

/-- Nothing makes a scan forget that a header was begun. -/
theorem Operation.after_started {scan : Scan} (started : scan.started = true)
    (operation : Operation) : (operation.after scan).started = true := by
  cases operation with
  | primitive name compatible =>
    have whole : (insertPrimitive name compatible).Ends scan _ _ := ⟨rfl, rfl⟩
    exact (seeding_keeps whole).2.trans started
  | primitives all =>
    have whole : (insertPrimitives all).Ends scan _ _ := ⟨rfl, rfl⟩
    exact (seeding_keeps whole).2.trans started
  | header text origin =>
    have whole : (takeHeader text origin).Ends scan _ _ := ⟨rfl, rfl⟩
    rcases takeHeader_grows whole with same | ⟨_, begun⟩
    · exact (congrArg Scan.started same).trans started
    · exact begun
  | file files path =>
    have whole : (takeFile files path).Ends scan _ _ := ⟨rfl, rfl⟩
    rcases takeFile_cases whole with ⟨same, _⟩ | ⟨text, check, errors, _, ends⟩
    · exact (congrArg Scan.started same).trans started
    · rcases takeHeader_grows ends with left | ⟨_, begun⟩
      · exact (congrArg Scan.started left).trans started
      · exact begun
  | structs => exact started
  | model =>
    rw [Operation.after_model]
    exact started

theorem Reach.started {scan later : Scan} (reach : Reach scan later)
    (started : scan.started = true) : later.started = true := by
  induction reach with
  | start => exact started
  | next operation _ ih => exact operation.after_started ih

/-- A header that was scanned to its end adds nothing when it is scanned again,
however much later, as long as registration is not ended. Every definition in it
is passed over, whatever the types it refers to have become. -/
theorem takeHeader_again {scan after later : Scan} {text origin : String} {names : List String}
    (scans : (takeHeader text origin).Ends scan (.ok names) after) (onward : Reach after later)
    (thawed : later.registry.frozen = false) (origin' : String) :
    (takeHeader text origin').Ends later (.ok []) { later with stats := { later.stats with
      structsSkipped := later.stats.structsSkipped + (Header.blocks text).1.length
      headersScanned := later.stats.headersScanned + 1 } } := by
  obtain ⟨_, between, takes, rfl⟩ := takeHeader_ok_iff.mp scans
  have begun : between.finishing.started = true := takes.grows.2
  have ready : between.finishing.Ready := fun unstarted => absurd unstarted (by simp [begun])
  have grown := (onward.grows ready).1
  have still : later.starting = later := by rw [starting, ← onward.started begun]
  have taken : ∀ block, .block block ∈ Header.findings text → later.starting.registry.has block.name :=
    fun block found => has_of_grows grown (takes.has_name found)
  have again := takes_of_has takes.not_malformed taken
  refine takeHeader_ok_iff.mpr ⟨thawed, _, again, ?_⟩
  rw [still]
  rfl

/-- A header with a definition of `int`, which is overridden and refers to a
type that nobody knows, and one of a struct that is new. -/
def overriddenHeader : String :=
  "typedef struct { nope_t x; } int;\ntypedef struct { int a; int b; } pair_t;"

theorem takeHeader_again_overriddenHeader :
    ∃ after, (takeHeader overriddenHeader "o").Ends ofInt (.ok ["pair_t"]) after ∧
      after.stats.structsSkipped = 1 ∧
      ∃ later, later = (Operation.header brokenHeader "h").after after ∧
        later.registry.frozen = false ∧
        later.registry.entries.map (·.name.text) = ["int", "pair_t", "a_t"] ∧
        (Header.blocks overriddenHeader).1.length = 2 ∧
        (takeHeader overriddenHeader "again").Ends later (.ok []) { later with
          stats := { later.stats with
            structsSkipped := later.stats.structsSkipped + (Header.blocks overriddenHeader).1.length
            headersScanned := later.stats.headersScanned + 1 } } := by
  have scans : (takeHeader overriddenHeader "o").Ends ofInt (.ok ["pair_t"])
      ((takeHeader overriddenHeader "o").run ofInt).state := ⟨by decide +kernel, rfl⟩
  have onward : Reach ((takeHeader overriddenHeader "o").run ofInt).state _ :=
    Reach.start.next (.header brokenHeader "h")
  exact ⟨_, scans, by decide +kernel, _, rfl, by decide +kernel, by decide +kernel,
    by decide +kernel, takeHeader_again scans onward (by decide +kernel) "again"⟩

end Scan

end HeaderTypes
