import HeaderTypes.Proofs.Registry.PlainData
import HeaderTypes.Proofs.Scan.Reach

namespace HeaderTypes.Scan
open Registry

/-- Whatever is asked of a scan and in whatever order, its registry is well formed. -/
theorem wellFormed_of_reach (tags : Tags) (check : SyntaxCheck) {scan : Scan}
    (reach : Reach (fresh tags check) scan) : scan.registry.WellFormed :=
  wellFormed_empty.of_grows (reach.grows (ready_fresh tags check)).1

/-- A struct with two function pointers, and a second one whose last field is of an unknown type. -/
def haltedHeader : String :=
  "typedef struct { int a; void (T *f)(int); int (T *g)(void); } a_t;\n" ++
    "typedef struct { void (T *h)(int); x_t x; } b_t;"

def haltedRun : Scan :=
  (Operation.header haltedHeader "h").after
    ((Operation.primitive "int" true).after (fresh none .off))

theorem wellFormed_of_reach_haltedRun :
    Reach (fresh none .off) haltedRun ∧
      haltedRun.registry.entries =
        [.primitive "int" true, .signature "a_t.f" none ["int"], .signature "a_t.g" (some "int") [],
          .struct "a_t" [⟨"int", "a"⟩, ⟨"a_t.f", "f"⟩, ⟨"a_t.g", "g"⟩] false] ∧
      haltedRun.registry.WellFormed := by
  have reach : Reach (fresh none .off) haltedRun :=
    (Reach.start.next (.primitive "int" true)).next (.header haltedHeader "h")
  exact ⟨reach, by decide +kernel, wellFormed_of_reach none .off reach⟩

/-- `int` is made known, then a header is scanned that comes to an unknown type. -/
def brokenRun : Scan :=
  (Operation.header brokenHeader "h").after
    ((Operation.primitive "int" true).after (fresh none .off))

theorem reach_brokenRun : Reach (fresh none .off) brokenRun :=
  (Reach.start.next (.primitive "int" true)).next (.header brokenHeader "h")

/-- An entry stays registered as it is, and its flag tells at any later time
whether it is plain data all the way down. -/
theorem compatible_iff_plain_of_reach (tags : Tags) (check : SyntaxCheck) {scan later : Scan}
    (reach : Reach (fresh tags check) scan) (onward : Reach scan later) {d : Descriptor}
    (member : d ∈ scan.registry.entries) :
    d ∈ later.registry.entries ∧ (d.compatible = true ↔ later.registry.Plain d) := by
  obtain ⟨early, ready⟩ := reach.grows (ready_fresh tags check)
  obtain ⟨late, _⟩ := onward.grows ready
  obtain ⟨appended, same⟩ := appends_of_grows late
  have kept : d ∈ later.registry.entries := same ▸ List.mem_append_left _ member
  have wellFormed := wellFormed_empty.of_grows (early.trans late)
  have flagged := flagged_empty.of_grows wellFormed_empty (early.trans late)
  exact ⟨kept, wellFormed.compatible_iff_plain flagged kept⟩

/-- A header with a struct inside another one, scanned after `int` was made known. -/
def nestedRun : Scan :=
  (Operation.header "typedef struct { int a; } a_t;\ntypedef struct { a_t a; int n; } b_t;" "n").after
    ((Operation.primitive "int" true).after (fresh none .off))

theorem compatible_iff_plain_of_reach_nestedRun :
    Reach (fresh none .off) nestedRun ∧
      Reach nestedRun ((Operation.header brokenHeader "h").after nestedRun) ∧
      .struct "b_t" [⟨"a_t", "a"⟩, ⟨"int", "n"⟩] true ∈ nestedRun.registry.entries ∧
      .struct "b_t" [⟨"a_t", "a"⟩, ⟨"int", "n"⟩] true ∈
        ((Operation.header brokenHeader "h").after nestedRun).registry.entries ∧
      (true = true ↔ ((Operation.header brokenHeader "h").after nestedRun).registry.Plain
        (.struct "b_t" [⟨"a_t", "a"⟩, ⟨"int", "n"⟩] true)) := by
  have reach : Reach (fresh none .off) nestedRun :=
    (Reach.start.next (.primitive "int" true)).next (.header _ "n")
  have onward : Reach nestedRun ((Operation.header brokenHeader "h").after nestedRun) :=
    Reach.start.next (.header brokenHeader "h")
  have member : .struct "b_t" [⟨"a_t", "a"⟩, ⟨"int", "n"⟩] true ∈ nestedRun.registry.entries := by
    decide +kernel
  exact ⟨reach, onward, member, compatible_iff_plain_of_reach none .off reach onward member⟩

end HeaderTypes.Scan
