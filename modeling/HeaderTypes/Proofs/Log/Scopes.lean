import HeaderTypes.Proofs.Log.Configured

namespace HeaderTypes.Log
open Document (Value)
open Text (Loose)

/-- Steps of a program that runs with scopes. Whatever fails goes through all that is around it, up
to a guard. -/
inductive Steps
  | none
  | setRun (fresh : String) (given : Option Value)
  | log (record : Record) (time : String) (origin : Origin)
  | fail
  | scope (kind : ScopeKind) (value : Loose) (body : Steps)
  | guarded (body : Steps)
  | seq (first second : Steps)

namespace Steps

/-- How steps end, in which scopes and after which records. -/
structure Ended where
  scopes : Scopes
  records : List Stamped := []
  failed : Bool := false

/-- A scope is closed when its steps have ended or failed. -/
def run : Steps → Scopes → Ended
  | none, scopes => { scopes }
  | setRun fresh given, scopes =>
    { scopes := { scopes with context := scopes.context.withRun fresh given } }
  | log record time origin, scopes =>
    { scopes, records := [⟨record, scopes.context, time, origin⟩] }
  | fail, scopes => { scopes, failed := true }
  | scope kind value body, scopes =>
    let ended := body.run (scopes.enter kind (.scalar (.text value)))
    { ended with scopes := ended.scopes.leave }
  | guarded body, scopes => { body.run scopes with failed := false }
  | seq first second, scopes =>
    let ended := first.run scopes
    if ended.failed then ended
    else
      let last := second.run ended.scopes
      { last with records := ended.records ++ last.records }

/-- The value of the innermost one of open scopes that is of a kind. -/
def innermost (kind : ScopeKind) (opened : List (ScopeKind × Loose)) : Value :=
  ((opened.find? (·.1 = kind)).map fun scope => Value.scalar (.text scope.2)).getD (.text "-")

/-- The context in open scopes of a run. -/
def contextIn (opened : List (ScopeKind × Loose)) (runId : Value) : Context :=
  ⟨runId, innermost .phase opened, innermost .header opened⟩

/-- What steps tell, the run that is the latest one then, and whether they fail. -/
structure Told where
  records : List Stamped := []
  runId : Value
  failed : Bool := false

/-- What steps tell in open scopes. Nothing is put back here: a scope is open for its steps alone. -/
def told : Steps → List (ScopeKind × Loose) → Value → Told
  | none, _, runId => { runId }
  | setRun fresh given, _, _ => { runId := (given.filter (·.isSet)).getD (.text fresh) }
  | log record time origin, opened, runId =>
    { records := [⟨record, contextIn opened runId, time, origin⟩], runId }
  | fail, _, runId => { runId, failed := true }
  | scope kind value body, opened, runId => body.told ((kind, value) :: opened) runId
  | guarded body, opened, runId => { body.told opened runId with failed := false }
  | seq first second, opened, runId =>
    let before := first.told opened runId
    if before.failed then before
    else
      let last := second.told opened before.runId
      { last with records := before.records ++ last.records }

theorem enter_contextIn (kind : ScopeKind) (value : Loose) (opened : List (ScopeKind × Loose))
    (runId : Value) (around : List (ScopeKind × Value)) :
    Scopes.enter ⟨contextIn opened runId, around⟩ kind (.scalar (.text value)) =
      ⟨contextIn ((kind, value) :: opened) runId, (kind, innermost kind opened) :: around⟩ := by
  cases kind <;> rfl

theorem leave_contextIn (kind : ScopeKind) (value : Loose) (opened : List (ScopeKind × Loose))
    (runId : Value) (around : List (ScopeKind × Value)) :
    Scopes.leave ⟨contextIn ((kind, value) :: opened) runId, (kind, innermost kind opened) :: around⟩ =
      ⟨contextIn opened runId, around⟩ := by
  cases kind <;> rfl

/-- Steps end in the scopes in which they began, and have told what their scopes say. -/
theorem run_eq_told (steps : Steps) (opened : List (ScopeKind × Loose)) (runId : Value)
    (around : List (ScopeKind × Value)) :
    let told := steps.told opened runId
    steps.run ⟨contextIn opened runId, around⟩ =
      ⟨⟨contextIn opened told.runId, around⟩, told.records, told.failed⟩ := by
  induction steps generalizing opened runId around with
  | none | setRun | log | fail => rfl
  -- the value that is put back is the one that the scopes around say
  | scope kind value body ih => simp only [run, told, enter_contextIn, ih, leave_contextIn]
  | guarded body ih => simp only [run, told, ih]
  | seq first second ih₁ ih₂ =>
    simp only [run, told, ih₁]
    split
    · rfl
    · rw [ih₂]

theorem leave_enter (scopes : Scopes) (kind : ScopeKind) (value runId : Value) :
    let inside := scopes.enter kind value
    Scopes.leave { inside with context := { inside.context with runId } } =
      { scopes with context := { scopes.context with runId } } := by
  cases kind <;> rfl

/-- In whatever scopes steps begin, they put back all that they have changed but the run. -/
theorem run_scopes (steps : Steps) (scopes : Scopes) :
    ∃ runId, (steps.run scopes).scopes =
      { scopes with context := { scopes.context with runId } } := by
  induction steps generalizing scopes with
  | none | log | fail => exact ⟨scopes.context.runId, rfl⟩
  | setRun fresh given => exact ⟨_, rfl⟩
  | scope kind value body ih =>
    obtain ⟨runId, inside⟩ := ih (scopes.enter kind (.scalar (.text value)))
    refine ⟨runId, ?_⟩
    simp only [run, inside]
    exact leave_enter ..
  | guarded body ih => exact ih scopes
  | seq first second ih₁ ih₂ =>
    simp only [run]
    split
    · exact ih₁ scopes
    · obtain ⟨between, inFirst⟩ := ih₁ scopes
      obtain ⟨runId, inSecond⟩ := ih₂ (first.run scopes).scopes
      exact ⟨runId, by rw [inSecond, inFirst]⟩

/-- The steps with the scopes of one kind alone, and without runs. -/
def only (kind : ScopeKind) : Steps → Steps
  | setRun .. => none
  | scope other value body =>
    if other = kind then scope other value (body.only kind) else body.only kind
  | guarded body => guarded (body.only kind)
  | seq first second => seq (first.only kind) (second.only kind)
  | steps => steps

/-- The steps without scopes. -/
def unscoped : Steps → Steps
  | scope _ _ body => body.unscoped
  | guarded body => guarded body.unscoped
  | seq first second => seq first.unscoped second.unscoped
  | steps => steps

theorem value_contextIn (opened : List (ScopeKind × Loose)) (runId : Value) (kind : ScopeKind) :
    (contextIn opened runId).value kind = innermost kind opened := by
  cases kind <;> rfl

theorem innermost_cons (kind other : ScopeKind) (value : Loose) (opened : List (ScopeKind × Loose)) :
    innermost kind ((other, value) :: opened) =
      if other = kind then .scalar (.text value) else innermost kind opened := by
  by_cases same : other = kind <;> simp [innermost, same]

/-- What is told of a kind of scope depends on the scopes of that kind alone. -/
theorem told_only (kind : ScopeKind) (steps : Steps) {opened opened' : List (ScopeKind × Loose)}
    (same : innermost kind opened' = innermost kind opened) (runId runId' : Value) :
    let told := steps.told opened runId
    let told' := (steps.only kind).told opened' runId'
    told'.failed = told.failed ∧
      told'.records.map (·.context.value kind) = told.records.map (·.context.value kind) := by
  induction steps generalizing opened opened' runId runId' with
  | none | setRun | fail => exact ⟨rfl, rfl⟩
  | log => simp only [only, told, List.map_cons, List.map_nil, value_contextIn, same, and_self]
  | scope other value body ih =>
    -- the scopes that are left out are open on one side only, but never the innermost of the kind
    by_cases own : other = kind
    · rw [only, if_pos own]
      exact ih (by rw [innermost_cons, innermost_cons, same]) runId runId'
    · rw [only, if_neg own]
      exact ih (by rw [innermost_cons, if_neg own, same]) runId runId'
  | guarded body ih => exact ⟨rfl, (ih same runId runId').2⟩
  | seq first second ih₁ ih₂ =>
    obtain ⟨failed, records⟩ := ih₁ same runId runId'
    simp only [only, told, failed]
    split
    · exact ⟨failed, records⟩
    · obtain ⟨failed', records'⟩ := ih₂ same (first.told opened runId).runId
        ((first.only kind).told opened' runId').runId
      refine ⟨failed', ?_⟩
      rw [List.map_append, List.map_append, records, records']

/-- What is told of runs does not depend on scopes. -/
theorem told_unscoped (steps : Steps) (opened opened' : List (ScopeKind × Loose)) (runId : Value) :
    let told := steps.told opened runId
    let told' := steps.unscoped.told opened' runId
    told'.failed = told.failed ∧ told'.runId = told.runId ∧
      told'.records.map (·.context.runId) = told.records.map (·.context.runId) := by
  induction steps generalizing opened opened' runId with
  | none | setRun | log | fail => exact ⟨rfl, rfl, rfl⟩
  | scope kind value body ih => exact ih ((kind, value) :: opened) opened' runId
  | guarded body ih =>
    obtain ⟨-, runs, records⟩ := ih opened opened' runId
    exact ⟨rfl, runs, records⟩
  | seq first second ih₁ ih₂ =>
    obtain ⟨failed, runs, records⟩ := ih₁ opened opened' runId
    simp only [unscoped, told, failed, runs]
    split
    · exact ⟨failed, runs, records⟩
    · obtain ⟨failed', runs', records'⟩ := ih₂ opened opened' (first.told opened runId).runId
      refine ⟨failed', runs', ?_⟩
      rw [List.map_append, List.map_append, records, records']

/-- Scopes are put back exactly. Whatever steps do and however they end, they tell what the scopes
around each record say and leave the scopes in which they began, so that none is open in the end if
none was at first. Runs and the two kinds of scope do not affect each other. A handler that knows the
context writes what is told. -/
theorem run_restores (steps : Steps) :
    (∀ opened runId around, steps.run ⟨contextIn opened runId, around⟩ =
      let told := steps.told opened runId
      ⟨⟨contextIn opened told.runId, around⟩, told.records, told.failed⟩) ∧
    (∀ kind, (steps.run {}).scopes.context.value kind = .text "-") ∧
    (∀ scopes, ∃ runId, (steps.run scopes).scopes =
      { scopes with context := { scopes.context with runId } }) ∧
    (∀ kind, ((steps.only kind).run {}).records.map (·.context.value kind) =
      (steps.run {}).records.map (·.context.value kind)) ∧
    (steps.unscoped.run {}).records.map (·.context.runId) =
      (steps.run {}).records.map (·.context.runId) ∧
    ∀ handler : Handler, 0 < handler.filters → ∀ stamped ∈ (steps.run {}).records,
      handler.render stamped = handler.layout.render true stamped ∧
        Marks (stamped.data true handler.layout.timed) stamped.context := by
  have fresh (steps : Steps) : steps.run {} =
      let told := steps.told [] (.text "-")
      ⟨⟨contextIn [] told.runId, []⟩, told.records, told.failed⟩ := run_eq_told steps [] _ []
  refine ⟨run_eq_told steps, fun kind => ?_, run_scopes steps, fun kind => ?_, ?_,
    fun handler marked stamped _ => ⟨handler.render_of_filters marked stamped, stamped.marks_data _⟩⟩
  · rw [fresh]
    exact value_contextIn [] _ kind
  · rw [fresh, fresh]
    exact (told_only kind steps rfl _ _).2
  · rw [fresh, fresh]
    exact (told_unscoped steps [] [] _).2.2

/-- A record in two scopes of which the inner one fails, one after that in the outer scope, and one
outside. -/
def someSteps : Steps :=
  let log : Steps := .log ⟨.info, "typegraph.scanner", "Scanned"⟩ "" {}
  .seq (.setRun "" (some (.text "run-9")))
    (.seq
      (.scope .phase "scan"
        (.seq (.guarded (.scope .header "entry.h" (.seq log .fail))) log))
      log)

theorem run_restores_someSteps :
    (someSteps.run {}).records.map (fun stamped =>
        (stamped.context.runId, stamped.context.phase, stamped.context.header)) =
      [(.text "run-9", .text "scan", .text "entry.h"), (.text "run-9", .text "scan", .text "-"),
        (.text "run-9", .text "-", .text "-")] ∧
    ∀ stamped ∈ (someSteps.run {}).records,
      Handler.render ⟨.bare, 1, .host 0⟩ stamped = Layout.bare.render true stamped ∧
        Marks (stamped.data true Layout.bare.timed) stamped.context :=
  ⟨rfl, (run_restores someSteps).2.2.2.2.2 ⟨.bare, 1, .host 0⟩ Nat.zero_lt_one⟩

end Steps

end HeaderTypes.Log
