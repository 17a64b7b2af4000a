import HeaderTypes.CommandLine.Run
import HeaderTypes.Proofs.Action

namespace HeaderTypes.CommandLine
variable {α β : Type}

/-- How a part of a run ends. A fault is an end like any other and leaves a session behind. -/
def Ends (part : Run α) (session : Session) (result : Except Fault α) (after : Session) : Prop :=
  part.run.run session = (result, after)

theorem Ends.exists (part : Run α) (session : Session) :
    ∃ result after, Ends part session result after :=
  ⟨_, _, rfl⟩

theorem Ends.unique {part : Run α} {session after after' : Session}
    {result result' : Except Fault α} (ends : Ends part session result after)
    (ends' : Ends part session result' after') :
    result = result' ∧ after = after' :=
  Prod.mk.inj (ends.symm.trans ends')

section
variable {session after : Session} {result : Except Fault α}

theorem ends_pure_iff {a : α} :
    Ends (pure a) session result after ↔ .ok a = result ∧ session = after :=
  iff_of_eq (Prod.mk.injEq ..)

theorem ends_throw_iff {fault : Fault} :
    Ends (throw fault) session result after ↔ .error fault = result ∧ session = after :=
  iff_of_eq (Prod.mk.injEq ..)

/-- A sequence ends where its first part fails, and otherwise where the second one ends. -/
theorem ends_bind_iff {first : Run β} {next : β → Run α} :
    Ends (first >>= next) session result after ↔
      (∃ b between, Ends first session (.ok b) between ∧ Ends (next b) between result after) ∨
      (∃ fault, Ends first session (.error fault) after ∧ .error fault = result) := by
  obtain ⟨begun, between, ends⟩ := Ends.exists first session
  have whole : (first >>= next).run.run session =
      match begun with
      | .ok b => (next b).run.run between
      | .error fault => (.error fault, between) := by
    rw [ExceptT.run_bind, StateT.run_bind, show first.run.run session = _ from ends]
    cases begun <;> rfl
  rw [Ends, whole]
  cases begun with
  | ok b =>
    constructor
    · intro last
      exact Or.inl ⟨b, between, ends, last⟩
    · rintro (⟨c, middle, first', last⟩ | ⟨fault, failed, _⟩)
      · obtain ⟨same, rfl⟩ := ends.unique first'
        cases same
        exact last
      · cases (ends.unique failed).1
  | error fault =>
    constructor
    · intro same
      obtain ⟨rfl, rfl⟩ := Prod.mk.inj same
      exact Or.inr ⟨fault, ends, rfl⟩
    · rintro (⟨c, middle, first', _⟩ | ⟨other, failed, rfl⟩)
      · cases (ends.unique first').1
      · obtain ⟨same, rfl⟩ := ends.unique failed
        cases same
        rfl

/-- A sequence whose first part is known to succeed is the second one. -/
theorem ends_bind_of_ends {first : Run β} {next : β → Run α} {between : Session} {b : β}
    (ends : Ends first session (.ok b) between) :
    Ends (first >>= next) session result after ↔ Ends (next b) between result after := by
  refine ⟨fun whole => ?_, fun last => ends_bind_iff.mpr (Or.inl ⟨b, between, ends, last⟩)⟩
  rcases ends_bind_iff.mp whole with ⟨c, middle, first', last⟩ | ⟨fault, failed, _⟩
  · obtain ⟨same, rfl⟩ := ends.unique first'
    cases same
    exact last
  · cases (ends.unique failed).1

theorem ends_get_bind_iff {next : Session → Run α} :
    Ends (get >>= next) session result after ↔ Ends (next session) session result after :=
  ends_bind_of_ends rfl

/-- A session with more records, made here and now. -/
def Session.recording (session : Session) (records : List Log.Record) : Session :=
  { session with
    records := session.records ++
      records.map fun r => ⟨r, session.scopes.context, session.time, {}⟩ }

theorem ends_record_bind_iff {records : List Log.Record} {next : Unit → Run α} :
    Ends (record records >>= next) session result after ↔
      Ends (next ()) (session.recording records) result after :=
  ends_bind_of_ends rfl

theorem ends_tell_bind_iff {level : Log.Level} {message : String} {next : Unit → Run α} :
    Ends (tell level message >>= next) session result after ↔
      Ends (next ()) (session.recording [⟨level, "run_scan", message⟩]) result after :=
  ends_bind_of_ends rfl

theorem ends_tell_iff {level : Log.Level} {message : String} {result : Except Fault Unit} :
    Ends (tell level message) session result after ↔
      .ok () = result ∧ session.recording [⟨level, "run_scan", message⟩] = after :=
  iff_of_eq (Prod.mk.injEq ..)

/-- A scope is left again however its part ends. -/
theorem ends_within_iff {kind : Log.ScopeKind} {value : String} {part : Run α} :
    Ends (within kind value part) session result after ↔
      ∃ between,
        Ends part { session with scopes := session.scopes.enter kind (.text value) } result
          between ∧
        { between with scopes := between.scopes.leave } = after := by
  obtain ⟨ended, between, ends⟩ :=
    Ends.exists part { session with scopes := session.scopes.enter kind (.text value) }
  have whole : (within kind value part).run.run session =
      match part.run.run { session with scopes := session.scopes.enter kind (.text value) } with
      | (ended, between) => (ended, { between with scopes := between.scopes.leave }) := rfl
  rw [Ends, whole, show part.run.run _ = _ from ends, Prod.mk.injEq]
  constructor
  · rintro ⟨rfl, left⟩
    exact ⟨between, ends, left⟩
  · rintro ⟨middle, ends', left⟩
    obtain ⟨same, rfl⟩ := ends.unique ends'
    exact ⟨same, left⟩

/-- An operation on a scan ends as it does by itself, and what it tells of is recorded. -/
theorem ends_onScan_iff {action : Action Scan β} {scan : Scan} {result : Except Fault (β × Scan)} :
    Ends (onScan action scan) session result after ↔
      session.recording ((action.run scan).events.map (·.record)) = after ∧
      ((∃ b later, action.Ends scan (.ok b) later ∧ .ok (b, later) = result) ∨
        (∃ failure later, action.Ends scan (.error failure) later ∧
          .error (.graph failure) = result)) := by
  rw [onScan, ends_record_bind_iff]
  cases ended : (action.run scan).result with
  | ok b =>
    rw [ends_pure_iff]
    constructor
    · rintro ⟨same, left⟩
      exact ⟨left, Or.inl ⟨b, _, ⟨ended, rfl⟩, same⟩⟩
    · rintro ⟨left, ⟨c, later, ⟨same, rfl⟩, value⟩ | ⟨failure, later, ⟨refused, _⟩, _⟩⟩
      · cases ended.symm.trans same
        exact ⟨value, left⟩
      · cases ended.symm.trans refused
  | error failure =>
    rw [ends_throw_iff]
    constructor
    · rintro ⟨same, left⟩
      exact ⟨left, Or.inr ⟨failure, _, ⟨ended, rfl⟩, same⟩⟩
    · rintro ⟨left, ⟨c, later, ⟨same, _⟩, _⟩ | ⟨other, later, ⟨refused, _⟩, value⟩⟩
      · cases ended.symm.trans same
      · cases ended.symm.trans refused
        exact ⟨value, left⟩

theorem ends_onScan_of_ends {action : Action Scan β} {scan later : Scan} {b : β}
    (ends : action.Ends scan (.ok b) later) (session : Session) :
    Ends (onScan action scan) session (.ok (b, later))
      (session.recording ((action.run scan).events.map (·.record))) :=
  ends_onScan_iff.mpr ⟨rfl, Or.inl ⟨b, later, ends, rfl⟩⟩

theorem ends_publishing_iff {attempt : Files.Tree → Publish.Attempt} {result : Except Fault Unit} :
    Ends (publishing attempt) session result after ↔
      { session with files := (attempt session.files).1 } = after ∧
      ((attempt session.files).2 = none ∧ .ok () = result ∨
        ∃ fault, (attempt session.files).2 = some fault ∧ .error (.publish fault) = result) := by
  rw [publishing, ends_get_bind_iff]
  obtain ⟨files, fault⟩ := attempt session.files
  have changed : Ends (modify fun session => { session with files } : Run Unit) session (.ok ())
      { session with files } := rfl
  rw [ends_bind_of_ends changed]
  cases fault with
  | none =>
    rw [ends_pure_iff]
    constructor
    · rintro ⟨same, left⟩
      exact ⟨left, Or.inl ⟨rfl, same⟩⟩
    · rintro ⟨left, ⟨_, same⟩ | ⟨fault, failed, _⟩⟩
      · exact ⟨same, left⟩
      · cases failed
  | some fault =>
    rw [ends_throw_iff]
    constructor
    · rintro ⟨same, left⟩
      exact ⟨left, Or.inr ⟨fault, rfl, same⟩⟩
    · rintro ⟨left, ⟨succeeded, _⟩ | ⟨other, failed, same⟩⟩
      · cases succeeded
      · cases failed
        exact ⟨same, left⟩

end

end HeaderTypes.CommandLine
