import HeaderTypes.Proofs.Scan.Counters

namespace HeaderTypes

namespace Registry

/-- The type of a field is the function pointer of another struct. -/
def borrows (r : Registry) (struct : Descriptor) (field : Field) : Bool :=
  (r.find? field.type).any (·.isSignature) &&
    field.type ≠ TypeName.ofSignature struct.name.text field.name

def borrowings (r : Registry) : List Field :=
  r.structs.flatMap fun struct => struct.fields.filter (r.borrows struct)

def signatureCount (r : Registry) : Nat := r.entries.countP (·.isSignature)

theorem signatureCount_of_primitive {r : Registry} (base : r.Primitive) : r.signatureCount = 0 := by
  refine List.countP_eq_zero.mpr fun d member signature => ?_
  rw [Descriptor.isSignature, base d member] at signature
  cases signature

theorem borrowings_of_primitive {r : Registry} (base : r.Primitive) : r.borrowings = [] := by
  rw [borrowings, Scan.structs_of_primitive base]
  rfl

/-- What the fields of a struct borrow does not change when more is registered. -/
theorem WellFormed.filter_borrows_extend {r : Registry} (wellFormed : r.WellFormed) {d : Descriptor}
    (member : d ∈ r.entries) (more : List Descriptor) :
    d.fields.filter ((r.extend more).borrows d) = d.fields.filter (r.borrows d) := by
  refine List.filter_congr fun field listed => ?_
  obtain ⟨known, canonical⟩ := wellFormed.has_field member listed
  rw [borrows, borrows, find?_of_canonical canonical, find?_of_canonical canonical,
    entry?_extend_of_has known]

namespace Registration
variable {tags : Tags} {r : Registry} {block : StructBlock} (reg : Registration tags r block)

theorem find?_field {field : Field} (listed : field ∈ reg.fields) :
    reg.registry.find? field.type = reg.registry.entry? field.type :=
  find?_of_canonical (reg.field_known listed).2

theorem signatureCount_registry :
    reg.registry.signatureCount = r.signatureCount + reg.signatures.length := by
  have all : reg.signatures.countP (·.isSignature) = reg.signatures.length := by
    refine List.countP_eq_length.mpr fun d member => ?_
    obtain ⟨name, returns, arguments, _, rfl, _⟩ := reg.signature_of_mem member
    rfl
  have none : [reg.struct].countP (·.isSignature) = 0 := rfl
  rw [signatureCount, registry, extend_entries, List.countP_append, List.countP_append, all, none]
  rfl

/-- Of the fields of a new struct that have a function pointer as their type,
one declares each new signature. The others borrow. -/
theorem signatureFields_eq (wellFormed : r.WellFormed) :
    reg.signatureFields =
      reg.signatures.length + (reg.fields.filter (reg.registry.borrows reg.struct)).length := by
  let own (field : Field) : Bool :=
    field.type = TypeName.ofSignature reg.struct.name.text field.name
  have declared : (reg.fields.filter own).countP
      (fun field => (reg.registry.find? field.type).any (·.isSignature)) = reg.signatures.length := by
    rw [← reg.declared_eq_signatures wellFormed, List.length_filterMap_eq_countP, List.countP_filter]
    refine List.countP_congr fun field listed => ?_
    rw [reg.find?_field listed, declaredBy]
    by_cases same : field.type = TypeName.ofSignature reg.struct.name.text field.name
    · simp [own, same]
    · simp [own, same]
  have borrowed : (reg.fields.filter fun field => !own field).countP
      (fun field => (reg.registry.find? field.type).any (·.isSignature)) =
        (reg.fields.filter (reg.registry.borrows reg.struct)).length := by
    rw [List.countP_filter, ← List.countP_eq_length_filter]
    refine List.countP_congr fun field _ => ?_
    simp [borrows, own]
  rw [signatureFields, List.countP_eq_countP_filter_add _ _ own, declared, borrowed]

theorem borrowings_registry (wellFormed : r.WellFormed) :
    reg.registry.borrowings =
      r.borrowings ++ reg.fields.filter (reg.registry.borrows reg.struct) := by
  have old : (r.structs.flatMap fun d => d.fields.filter (reg.registry.borrows d)) =
      r.borrowings := by
    refine List.flatMap_congr fun d member => ?_
    exact wellFormed.filter_borrows_extend (List.mem_filter.mp member).1 _
  have new : ([reg.struct].flatMap fun d => d.fields.filter (reg.registry.borrows d)) =
      reg.fields.filter (reg.registry.borrows reg.struct) := List.append_nil _
  rw [borrowings, Scan.structs_registration reg, List.flatMap_append, old, new]

end Registration

theorem borrowings_eq_nil_iff {r : Registry} :
    r.borrowings = [] ↔ ∀ d ∈ r.structs, ∀ field ∈ d.fields, r.borrows d field = false := by
  simp only [borrowings, List.flatMap_eq_nil_iff, List.filter_eq_nil_iff, Bool.not_eq_true]

end Registry

namespace Scan
open HeaderTypes.Action Registry Relation

/-- The counter of signatures tells how many are registered, and how often one
is the type of a field that did not declare it. -/
def SignaturesCounted (scan : Scan) : Prop :=
  scan.stats.signaturesRegistered = scan.registry.signatureCount + scan.registry.borrowings.length

theorem signaturesCounted_fresh (tags : Tags) (check : SyntaxCheck) :
    (fresh tags check).SignaturesCounted := rfl

theorem TakesBlock.signaturesCounted {scan after : Scan} {block : StructBlock} {added : List String}
    (takes : TakesBlock scan block added after) (wellFormed : scan.registry.WellFormed)
    (counted : scan.SignaturesCounted) : after.SignaturesCounted := by
  cases takes with
  | skip => exact counted
  | register reg =>
    have gained := reg.signatureFields_eq wellFormed
    have signatures := reg.signatureCount_registry
    have borrowings := reg.borrowings_registry wellFormed
    change scan.stats.signaturesRegistered + reg.signatureFields =
      reg.registry.signatureCount + reg.registry.borrowings.length
    rw [SignaturesCounted] at counted
    rw [borrowings, List.length_append]
    omega

theorem Step.signaturesCounted {scan after : Scan} (step : Step scan after)
    (wellFormed : scan.registry.WellFormed) (counted : scan.SignaturesCounted) :
    after.SignaturesCounted := by
  cases step with
  | @seed registry base base' _ =>
    change scan.stats.signaturesRegistered = registry.signatureCount + registry.borrowings.length
    rw [signatureCount_of_primitive base', borrowings_of_primitive base', counted,
      signatureCount_of_primitive base, borrowings_of_primitive base]
  | block takes => exact takes.signaturesCounted wellFormed counted
  | begin | diagnose | finish | close => exact counted

theorem SignaturesCounted.of_steps {scan after : Scan} (counted : scan.SignaturesCounted)
    (wellFormed : scan.registry.WellFormed) (steps : ReflTransGen Step scan after) :
    after.SignaturesCounted := by
  induction steps with
  | refl => exact counted
  | tail earlier step ih =>
    exact step.signaturesCounted (wellFormed.of_grows (grows_of_steps earlier)) ih

/-- Whatever is asked of a scan, the counter of signatures exceeds what is
registered by the number of fields that name the function pointer of another
struct as their type. It is right exactly when there is no such field. -/
theorem signaturesRegistered_of_reach {tags : Tags} {check : SyntaxCheck} {scan : Scan}
    (reach : Reach (fresh tags check) scan) :
    scan.stats.signaturesRegistered =
        scan.registry.entries.countP (·.isSignature) + scan.registry.borrowings.length ∧
      (scan.stats.signaturesRegistered = scan.registry.entries.countP (·.isSignature) ↔
        ∀ d ∈ scan.registry.structs, ∀ field ∈ d.fields, scan.registry.borrows d field = false) := by
  have steps := reach.steps (ready_fresh tags check)
  have counted : scan.stats.signaturesRegistered =
      scan.registry.entries.countP (·.isSignature) + scan.registry.borrowings.length :=
    (signaturesCounted_fresh tags check).of_steps wellFormed_empty steps
  refine ⟨counted, ?_⟩
  rw [← borrowings_eq_nil_iff, ← List.length_eq_zero_iff]
  omega

/-- A field of the second struct has the function pointer of the first as its type. -/
def borrowedFieldHeader : String :=
  "typedef struct { int (C *f)(int a); } a_t;\ntypedef struct { a_t.f x; } b_t;"

def borrowedFieldRun : Scan :=
  (Operation.header borrowedFieldHeader "h.h").after
    ((Operation.primitive "int" true).after (fresh none .off))

theorem reach_borrowedFieldRun : Reach (fresh none .off) borrowedFieldRun :=
  (Reach.start.next (.primitive "int" true)).next (.header borrowedFieldHeader "h.h")

theorem signaturesRegistered_of_reach_borrowedFieldRun :
    Reach (fresh none .off) borrowedFieldRun ∧
      borrowedFieldRun.stats.signaturesRegistered =
        borrowedFieldRun.registry.entries.countP (·.isSignature) +
          borrowedFieldRun.registry.borrowings.length ∧
      (borrowedFieldRun.stats.signaturesRegistered =
          borrowedFieldRun.registry.entries.countP (·.isSignature) ↔
        ∀ d ∈ borrowedFieldRun.registry.structs, ∀ field ∈ d.fields,
          borrowedFieldRun.registry.borrows d field = false) :=
  ⟨reach_borrowedFieldRun, signaturesRegistered_of_reach reach_borrowedFieldRun⟩

/-- One signature is registered and two are counted. -/
theorem signaturesRegistered_borrowedFieldRun :
    Reach (fresh none .off) borrowedFieldRun ∧
      borrowedFieldRun.stats.signaturesRegistered = 2 ∧
      borrowedFieldRun.registry.entries.countP (·.isSignature) = 1 :=
  ⟨reach_borrowedFieldRun, by decide +kernel, by decide +kernel⟩

end Scan

end HeaderTypes
