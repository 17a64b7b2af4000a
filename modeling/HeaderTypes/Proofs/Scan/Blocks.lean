import HeaderTypes.Proofs.Header.Names
import HeaderTypes.Proofs.Registry.Registration
import HeaderTypes.Scan

namespace HeaderTypes

/-- The fields whose types are signatures, once the struct is registered. -/
def Registry.Registration.signatureFields {tags : Registry.Tags} {r : Registry}
    {block : StructBlock} (reg : Registry.Registration tags r block) : Nat :=
  reg.fields.countP fun field => (reg.registry.find? field.type).any (·.isSignature)

/-- What something found in a header can be refused for. A name is taken only if
it is that of a signature of the struct. -/
inductive Finding.RefusedFor : Finding → Failure → Prop
  | malformedBlock {block} : RefusedFor (.malformed block) (.malformedBlock block)
  | malformedField {block statement} : statement ∈ Declaration.statements block.body →
      RefusedFor (.block block) (.malformedField block.name statement)
  | unknownType {block use} : use.struct = block.name → RefusedFor (.block block) (.unknownType use)
  | duplicateType {block statement returns tag name arguments} :
      statement ∈ Declaration.statements block.body →
      Declaration.ofStatement? statement = some (.pointer returns tag name arguments) →
      RefusedFor (.block block) (.duplicateType (TypeName.ofSignature block.name name))

theorem Finding.RefusedFor.isGraphFailure {finding : Finding} {cause : Failure}
    (refused : finding.RefusedFor cause) : cause.isGraphFailure := by
  cases refused with
  | malformedBlock | malformedField | unknownType | duplicateType => rfl

namespace Registry

theorem Unread.refusedFor {tags : Tags} {r : Registry} {block : StructBlock} {cause : Failure}
    (unread : Unread tags r block.name (Declaration.statements block.body) cause) :
    Finding.RefusedFor (.block block) cause := by
  rcases unread.cause_cases with ⟨statement, written, rfl⟩ | ⟨use, named, rfl⟩
  · exact .malformedField written
  · exact .unknownType named

theorem Refuses.refusedFor {tags : Tags} {r : Registry} {block : StructBlock} {cause : Failure}
    (refuses : Refuses tags r block cause) : Finding.RefusedFor (.block block) cause := by
  cases refuses with
  | unread unread => exact unread.refusedFor
  | taken reads taken =>
    obtain ⟨d, signature, rfl⟩ := exists_of_firstTaken? taken
    obtain ⟨part, listed, same⟩ := List.mem_filterMap.mp signature
    obtain ⟨statement, written, read⟩ := exists_reads_of_mem reads part listed
    cases read with
    | direct read known => cases same
    | pointer read accepted some known returnKnown =>
      cases same
      exact .duplicateType written read

end Registry

namespace Scan
open HeaderTypes.Action Registry

/-- A scan that has passed over a block whose name is taken. -/
def skipping (scan : Scan) : Scan :=
  { scan with stats := { scan.stats with structsSkipped := scan.stats.structsSkipped + 1 } }

/-- A scan that has registered the struct of a block. -/
def registering (scan : Scan) {block : StructBlock}
    (reg : Registration scan.tags scan.registry block) : Scan :=
  { scan with
    registry := reg.registry
    stats := { scan.stats with
      structsRegistered := scan.stats.structsRegistered + 1
      structsCompatible := scan.stats.structsCompatible + if reg.compatible then 1 else 0
      signaturesRegistered := scan.stats.signaturesRegistered + reg.signatureFields } }

/-- What a block does to a scan, with the names that it adds: it is skipped when
its name is taken, and otherwise registered as a whole. -/
inductive TakesBlock (scan : Scan) (block : StructBlock) : List String → Scan → Prop
  | skip : scan.registry.has block.name → TakesBlock scan block [] scan.skipping
  | register (reg : Registration scan.tags scan.registry block) :
      TakesBlock scan block [block.name] (scan.registering reg)

/-- What findings do to a scan, in their order, with the names that they add. -/
inductive Takes : Scan → List Finding → List String → Scan → Prop
  | done {scan} : Takes scan [] [] scan
  | forward {scan line findings names after} : Takes scan findings names after →
      Takes scan (.forward line :: findings) names after
  | block {scan block added between findings names after} : TakesBlock scan block added between →
      Takes between findings names after → Takes scan (.block block :: findings) (added ++ names) after

/-- A finding with which a scan cannot go on, and the cause of that. -/
inductive Stops (scan : Scan) : Finding → Failure → Prop
  | malformed {block} : Stops scan (.malformed block) (.malformedBlock block)
  | block {block cause} : scan.registry.has block.name = false →
      Refuses scan.tags scan.registry block cause → Stops scan (.block block) cause

theorem Stops.refusedFor {scan : Scan} {finding : Finding} {cause : Failure}
    (stops : Stops scan finding cause) : finding.RefusedFor cause := by
  cases stops with
  | malformed => exact .malformedBlock
  | block _ refuses => exact refuses.refusedFor

theorem signatureCount_eq {r : Registry} {fields : List Field}
    (known : ∀ field ∈ fields, ∃ d, r.find? field.type = some d) :
    signatureCount r fields =
      .ok (fields.countP fun field => (r.find? field.type).any (·.isSignature)) := by
  induction fields with
  | nil => rfl
  | cons field fields ih =>
    obtain ⟨d, found⟩ := known field List.mem_cons_self
    have rest := ih fun other member => known other (List.mem_cons_of_mem _ member)
    have step : signatureCount r (field :: fields) =
        (signatureCount r fields).map ((if d.isSignature then 1 else 0) + ·) := by
      rw [signatureCount, entry_of_find? found]
      rfl
    rw [step, rest, List.countP_cons, found, Nat.add_comm]
    rfl

theorem signatureCount_of_registration {tags : Tags} {r : Registry} {block : StructBlock}
    (reg : Registration tags r block) :
    signatureCount reg.registry reg.fields = .ok reg.signatureFields := by
  refine signatureCount_eq fun field member => ?_
  obtain ⟨known, canonical⟩ := reg.field_known member
  rw [find?_of_canonical canonical, Registration.registry, ← extend_extend]
  exact Option.isSome_iff_exists.mp (has_extend.mpr (Or.inl known))

theorem onRegistry_ends_iff {α : Type} {action : Action Registry α} (scan : Scan) {after : Scan}
    {result : Except Failure α} :
    (onRegistry action).Ends scan result after ↔
      ∃ registry, action.Ends scan.registry result registry ∧ { scan with registry } = after :=
  ends_onPart_iff

theorem takeBlock_ends_of_has {scan : Scan} {block : StructBlock} (origin : String)
    (named : Text.isName block.name.toList) (taken : scan.registry.has block.name) :
    (takeBlock origin block).Ends scan (.ok false) scan.skipping := by
  have contained : scan.registry.contains block.name := by rw [contains_of_isName named, taken]
  simp only [takeBlock, ends_tell_bind_iff, ends_get_bind_iff, contained, if_true, count,
    ends_update_bind_iff]
  exact ends_pure_iff.mpr ⟨rfl, rfl⟩

theorem takeBlock_ends_of_registration {scan : Scan} {block : StructBlock} (origin : String)
    (thawed : scan.registry.frozen = false) (reg : Registration scan.tags scan.registry block) :
    (takeBlock origin block).Ends scan (.ok true) (scan.registering reg) := by
  have contained : scan.registry.contains block.name = false := by
    rw [contains_of_isName reg.named, reg.free]
  have fields := (onRegistry_ends_iff scan).mpr ⟨_, reg.addFields_ends thawed, rfl⟩
  have struct := (onRegistry_ends_iff { scan with registry := reg.known }).mpr
    ⟨_, reg.addStruct_ends thawed, rfl⟩
  have looked := signatureCount_of_registration reg
  simp only [takeBlock, ends_tell_bind_iff, ends_get_bind_iff, contained, Bool.false_eq_true,
    if_false]
  refine fields.bind (struct.bind ?_)
  simp only [count, ends_update_bind_iff, ends_get_bind_iff, ends_ofExcept_bind_iff]
  exact Or.inl ⟨_, looked, ends_pure_iff.mpr ⟨rfl, rfl⟩⟩

theorem takeBlock_ends_of_refuses {scan : Scan} {block : StructBlock} {cause : Failure}
    (origin : String) (named : Text.isName block.name.toList)
    (free : scan.registry.has block.name = false)
    (refused : (addFields scan.tags block.name block.body).Ends scan.registry (.error cause)
      scan.registry) :
    (takeBlock origin block).Ends scan (.error cause) scan := by
  have contained : scan.registry.contains block.name = false := by
    rw [contains_of_isName named, free]
  have fields := (onRegistry_ends_iff scan).mpr ⟨_, refused, rfl⟩
  simp only [takeBlock, ends_tell_bind_iff, ends_get_bind_iff, contained, Bool.false_eq_true,
    if_false]
  exact fields.bind_error

/-- A block is skipped or registered, or the scan stops at it as it found it. -/
theorem takeBlock_cases {scan : Scan} {block : StructBlock} (origin : String)
    (thawed : scan.registry.frozen = false) (named : Text.isName block.name.toList) :
    (∃ isNew after, (takeBlock origin block).Ends scan (.ok isNew) after ∧
      TakesBlock scan block (if isNew then [block.name] else []) after) ∨
    (∃ cause, (takeBlock origin block).Ends scan (.error cause) scan ∧
      Stops scan (.block block) cause) := by
  by_cases taken : scan.registry.has block.name
  · exact Or.inl ⟨false, _, takeBlock_ends_of_has origin named taken, .skip taken⟩
  · have free := Bool.eq_false_iff.mpr taken
    rcases registration_or_refuses named free with ⟨⟨reg⟩⟩ | ⟨cause, refuses, refused⟩
    · exact Or.inl ⟨true, _, takeBlock_ends_of_registration origin thawed reg, .register reg⟩
    · exact Or.inr ⟨cause, takeBlock_ends_of_refuses origin named free refused, .block free refuses⟩

theorem TakesBlock.frozen_eq {scan after : Scan} {block : StructBlock} {added : List String}
    (takes : TakesBlock scan block added after) : after.registry.frozen = scan.registry.frozen := by
  cases takes <;> rfl

theorem TakesBlock.headersScanned_eq {scan after : Scan} {block : StructBlock} {added : List String}
    (takes : TakesBlock scan block added after) :
    after.stats.headersScanned = scan.stats.headersScanned := by
  cases takes <;> rfl

theorem takeBlock_thawed {origin : String} {block : StructBlock} {scan after : Scan}
    {result : Except Failure Bool} (ends : (takeBlock origin block).Ends scan result after)
    (thawed : scan.registry.frozen = false) (named : Text.isName block.name.toList) :
    after.registry.frozen = false := by
  rcases takeBlock_cases origin thawed named with ⟨isNew, left, taken, takes⟩ | ⟨cause, refused, -⟩
  · obtain ⟨-, rfl⟩ := ends.unique taken
    exact takes.frozen_eq.trans thawed
  · obtain ⟨-, rfl⟩ := ends.unique refused
    exact thawed

/-- A scan with other values where no block depends on them. -/
def aside (scan : Scan) (check : SyntaxCheck) (started : Bool) (headers errors : Nat) : Scan :=
  { scan with
    check, started
    stats := { scan.stats with headersScanned := headers, syntaxErrors := errors } }

def IsAside (change : Scan → Scan) : Prop :=
  ∃ (check : SyntaxCheck → SyntaxCheck) (started : Bool → Bool) (headers errors : Nat → Nat),
    ∀ scan, change scan = scan.aside (check scan.check) (started scan.started)
      (headers scan.stats.headersScanned) (errors scan.stats.syntaxErrors)

/-- Only the registry and the tags decide what becomes of a block. -/
theorem IsAside.takeBlock {change : Scan → Scan} (isAside : IsAside change) {origin : String}
    {block : StructBlock} {scan after : Scan} (thawed : scan.registry.frozen = false)
    (named : Text.isName block.name.toList) {result : Except Failure Bool}
    (ends : (takeBlock origin block).Ends scan result after) :
    (Scan.takeBlock origin block).Ends (change scan) result (change after) := by
  obtain ⟨check, started, headers, errors, changed⟩ := isAside
  rw [changed, changed]
  let other : Scan := scan.aside (check scan.check) (started scan.started)
    (headers scan.stats.headersScanned) (errors scan.stats.syntaxErrors)
  have thawed' : other.registry.frozen = false := thawed
  by_cases taken : scan.registry.has block.name
  · obtain ⟨rfl, rfl⟩ := ends.unique (takeBlock_ends_of_has origin named taken)
    have skipped : (Scan.takeBlock origin block).Ends other (.ok false) other.skipping :=
      takeBlock_ends_of_has origin named taken
    exact skipped
  · have free := Bool.eq_false_iff.mpr taken
    rcases registration_or_refuses named free with ⟨⟨reg⟩⟩ | ⟨cause, _, refused⟩
    · obtain ⟨rfl, rfl⟩ := ends.unique (takeBlock_ends_of_registration origin thawed reg)
      have registered : (Scan.takeBlock origin block).Ends other (.ok true) (other.registering reg) :=
        takeBlock_ends_of_registration origin thawed' reg
      exact registered
    · obtain ⟨rfl, rfl⟩ := ends.unique (takeBlock_ends_of_refuses origin named free refused)
      have stopped : (Scan.takeBlock origin block).Ends other (.error cause) other :=
        takeBlock_ends_of_refuses origin named free refused
      exact stopped

theorem Takes.frozen_eq {scan after : Scan} {findings : List Finding} {names : List String}
    (takes : Takes scan findings names after) : after.registry.frozen = scan.registry.frozen := by
  induction takes with
  | done => rfl
  | forward _ ih => exact ih
  | block first _ ih => exact ih.trans first.frozen_eq

theorem Takes.headersScanned_eq {scan after : Scan} {findings : List Finding} {names : List String}
    (takes : Takes scan findings names after) :
    after.stats.headersScanned = scan.stats.headersScanned := by
  induction takes with
  | done => rfl
  | forward _ ih => exact ih
  | block first _ ih => exact ih.trans first.headersScanned_eq

/-- All that was taken could be read. -/
theorem Takes.not_malformed {scan after : Scan} {findings : List Finding} {names : List String}
    (takes : Takes scan findings names after) (block : MalformedBlock) :
    .malformed block ∉ findings := by
  induction takes with
  | done => exact List.not_mem_nil
  | forward _ ih => simpa using ih
  | block _ _ ih => simpa using ih

/-- What findings do to a scan is what taking them in their order leaves behind. -/
theorem Takes.ends {scan after : Scan} {findings : List Finding} {names : List String}
    (takes : Takes scan findings names after) (origin : String)
    (thawed : scan.registry.frozen = false) (named : ∀ finding ∈ findings, finding.Named) :
    (takeFindings origin findings).Ends scan (.ok names) after := by
  induction takes with
  | done => exact ends_pure_iff.mpr ⟨rfl, rfl⟩
  | forward _ ih =>
    exact ends_tell_bind_iff.mpr (ih thawed (List.forall_mem_cons.mp named).2)
  | block first _ ih =>
    obtain ⟨name, others⟩ := List.forall_mem_cons.mp named
    have rest := ih (first.frozen_eq.trans thawed) others
    cases first with
    | skip taken =>
      exact (takeBlock_ends_of_has origin name taken).bind
        (rest.bind (ends_pure_iff.mpr ⟨rfl, rfl⟩))
    | register reg =>
      exact (takeBlock_ends_of_registration origin thawed reg).bind
        (rest.bind (ends_pure_iff.mpr ⟨rfl, rfl⟩))

/-- Findings are all taken, or all up to one at which the scan stops. Nothing
else decides how taking them ends. -/
theorem takeFindings_cases (origin : String) (scan : Scan) {findings : List Finding}
    (thawed : scan.registry.frozen = false) (named : ∀ finding ∈ findings, finding.Named) :
    (∃ names after, Takes scan findings names after) ∨
    (∃ cause after before failing later names,
      (takeFindings origin findings).Ends scan (.error cause) after ∧
      findings = before ++ failing :: later ∧ Takes scan before names after ∧
      Stops after failing cause) := by
  induction findings generalizing scan with
  | nil => exact Or.inl ⟨[], scan, .done⟩
  | cons finding findings ih =>
    obtain ⟨name, others⟩ := List.forall_mem_cons.mp named
    cases finding with
    | malformed block =>
      exact Or.inr ⟨_, scan, [], _, findings, [], ends_refuse_iff.mpr ⟨rfl, rfl⟩, rfl, .done,
        .malformed⟩
    | forward line =>
      rcases ih scan thawed others with ⟨names, after, takes⟩ |
        ⟨cause, after, before, failing, later, names, ends, rfl, takes, stops⟩
      · exact Or.inl ⟨names, after, takes.forward⟩
      · exact Or.inr ⟨cause, after, .forward line :: before, failing, later, names,
          ends_tell_bind_iff.mpr ends, rfl, takes.forward, stops⟩
    | block block =>
      rcases takeBlock_cases origin thawed name with ⟨isNew, between, first, taken⟩ |
        ⟨cause, refused, stops⟩
      · have thawed' := taken.frozen_eq.trans thawed
        rcases ih between thawed' others with ⟨names, after, takes⟩ |
          ⟨cause, after, before, failing, later, names, ends, rfl, takes, stops⟩
        · exact Or.inl ⟨_, after, .block taken takes⟩
        · exact Or.inr ⟨cause, after, .block block :: before, failing, later, _,
            first.bind ends.bind_error, rfl, .block taken takes, stops⟩
      · exact Or.inr ⟨cause, scan, [], _, findings, [], refused.bind_error, rfl, .done, stops⟩

end Scan

end HeaderTypes
