import HeaderTypes.Action

namespace HeaderTypes.Action
variable {σ τ α β : Type}

/-- How an operation ends, whatever it tells of on the way. A refusal is an end
like any other and leaves a state behind. -/
def Ends (action : Action σ α) (state : σ) (result : Except Failure α) (after : σ) : Prop :=
  (action.run state).result = result ∧ (action.run state).state = after

theorem Ends.exists (action : Action σ α) (state : σ) :
    ∃ result after, action.Ends state result after :=
  ⟨_, _, rfl, rfl⟩

theorem Ends.unique {action : Action σ α} {state after after' : σ} {result result' : Except Failure α}
    (ends : action.Ends state result after) (ends' : action.Ends state result' after') :
    result = result' ∧ after = after' :=
  ⟨ends.1.symm.trans ends'.1, ends.2.symm.trans ends'.2⟩

theorem ends_pure_iff {a : α} {state after : σ} {result : Except Failure α} :
    (Pure.pure a : Action σ α).Ends state result after ↔ .ok a = result ∧ state = after :=
  Iff.rfl

theorem ends_refuse_iff {cause : Failure} {state after : σ} {result : Except Failure α} :
    (refuse cause : Action σ α).Ends state result after ↔ .error cause = result ∧ state = after :=
  Iff.rfl

theorem ends_ofExcept_iff {value : Except Failure α} {state after : σ} {result : Except Failure α} :
    (ofExcept value : Action σ α).Ends state result after ↔ value = result ∧ state = after := by
  cases value <;> exact Iff.rfl

/-- A sequence ends where its first operation refuses, and otherwise where the second one ends. -/
theorem ends_bind_iff {first : Action σ α} {next : α → Action σ β} {state after : σ}
    {result : Except Failure β} :
    (first >>= next).Ends state result after ↔
      (∃ a between, first.Ends state (.ok a) between ∧ (next a).Ends between result after) ∨
      (∃ cause, first.Ends state (.error cause) after ∧ .error cause = result) := by
  unfold Ends
  rw [run_bind]
  cases ended : (first.run state).result with
  | ok a =>
    constructor
    · intro same
      exact Or.inl ⟨a, _, ⟨rfl, rfl⟩, same⟩
    · rintro (⟨b, between, ⟨value, same⟩, last⟩ | ⟨cause, ⟨refused, _⟩, _⟩)
      · cases value
        exact same ▸ last
      · cases refused
  | error cause =>
    constructor
    · rintro ⟨same, left⟩
      exact Or.inr ⟨cause, ⟨rfl, left⟩, same⟩
    · rintro (⟨b, between, ⟨value, _⟩, _⟩ | ⟨other, ⟨refused, left⟩, same⟩)
      · cases value
      · cases refused
        exact ⟨same, left⟩

theorem Ends.bind {first : Action σ α} {next : α → Action σ β} {state between after : σ} {a : α}
    {result : Except Failure β} (ends : first.Ends state (.ok a) between)
    (last : (next a).Ends between result after) : (first >>= next).Ends state result after :=
  ends_bind_iff.mpr (Or.inl ⟨a, between, ends, last⟩)

theorem Ends.bind_error {first : Action σ α} {next : α → Action σ β} {state after : σ}
    {cause : Failure} (ends : first.Ends state (.error cause) after) :
    (first >>= next).Ends state (.error cause) after :=
  ends_bind_iff.mpr (Or.inr ⟨cause, ends, rfl⟩)

/-- A sequence whose first operation is known to succeed is the second one. -/
theorem ends_bind_of_ends {first : Action σ α} {next : α → Action σ β} {state between after : σ}
    {a : α} {result : Except Failure β} (ends : first.Ends state (.ok a) between) :
    (first >>= next).Ends state result after ↔ (next a).Ends between result after := by
  refine ⟨fun whole => ?_, ends.bind⟩
  rcases ends_bind_iff.mp whole with ⟨b, middle, first', last⟩ | ⟨cause, refused, _⟩
  · obtain ⟨same, left⟩ := ends.unique first'
    cases same
    exact left ▸ last
  · cases (ends.unique refused).1

theorem ends_get_bind_iff {next : σ → Action σ β} {state after : σ} {result : Except Failure β} :
    (get >>= next).Ends state result after ↔ (next state).Ends state result after :=
  ends_bind_of_ends ⟨rfl, rfl⟩

theorem ends_tell_bind_iff {event : Event} {next : Unit → Action σ β} {state after : σ}
    {result : Except Failure β} :
    (tell event >>= next).Ends state result after ↔ (next ()).Ends state result after :=
  ends_bind_of_ends ⟨rfl, rfl⟩

theorem ends_update_bind_iff {change : σ → σ} {next : Unit → Action σ β} {state after : σ}
    {result : Except Failure β} :
    (update change >>= next).Ends state result after ↔ (next ()).Ends (change state) result after :=
  ends_bind_of_ends ⟨rfl, rfl⟩

theorem ends_ofExcept_bind_iff {value : Except Failure α} {next : α → Action σ β} {state after : σ}
    {result : Except Failure β} :
    (ofExcept value >>= next).Ends state result after ↔
      (∃ a, value = .ok a ∧ (next a).Ends state result after) ∨
      (∃ cause, value = .error cause ∧ .error cause = result ∧ state = after) := by
  cases value with
  | ok a =>
    have here : (ofExcept (.ok a) : Action σ α).Ends state (.ok a) state := ⟨rfl, rfl⟩
    rw [ends_bind_of_ends here]
    constructor
    · exact fun last => Or.inl ⟨a, rfl, last⟩
    · rintro (⟨b, same, last⟩ | ⟨cause, same, _⟩)
      · cases same
        exact last
      · cases same
  | error cause =>
    constructor
    · rintro ⟨same, left⟩
      exact Or.inr ⟨cause, rfl, same, left⟩
    · rintro (⟨b, same, _⟩ | ⟨other, same, refused, left⟩)
      · cases same
      · cases same
        exact ⟨refused, left⟩

theorem ends_tellingRefusal_iff {action : Action σ α} {events : Failure → List Event}
    {state after : σ} {result : Except Failure α} :
    (action.tellingRefusal events).Ends state result after ↔ action.Ends state result after := by
  unfold Ends
  have same : ((action.tellingRefusal events).run state).result = (action.run state).result ∧
      ((action.tellingRefusal events).run state).state = (action.run state).state := by
    simp only [run, tellingRefusal]
    split <;> exact ⟨rfl, rfl⟩
  rw [same.1, same.2]

theorem ends_onPart_iff {part : τ → σ} {withPart : τ → σ → τ} {action : Action σ α} {whole after : τ}
    {result : Except Failure α} :
    (action.onPart part withPart).Ends whole result after ↔
      ∃ left, action.Ends (part whole) result left ∧ withPart whole left = after := by
  constructor
  · rintro ⟨same, left⟩
    exact ⟨_, ⟨same, rfl⟩, left⟩
  · rintro ⟨left, ⟨same, rfl⟩, kept⟩
    exact ⟨same, kept⟩

/-- An operation leaves a state as it is, however it ends. -/
def Keeps (action : Action σ α) (state : σ) : Prop := (action.run state).state = state

theorem Ends.eq_of_keeps {action : Action σ α} {state after : σ} {result : Except Failure α}
    (ends : action.Ends state result after) (keeps : action.Keeps state) : after = state :=
  ends.2.symm.trans keeps

theorem Keeps.bind {first : Action σ α} {next : α → Action σ β} {state : σ}
    (keeps : first.Keeps state) (rest : ∀ a, (next a).Keeps state) : (first >>= next).Keeps state := by
  obtain ⟨result, after, ends⟩ := Ends.exists (first >>= next) state
  rcases ends_bind_iff.mp ends with ⟨a, between, begun, ended⟩ | ⟨cause, refused, _⟩
  · have same := begun.eq_of_keeps keeps
    subst same
    exact ends.2.trans (ended.eq_of_keeps (rest a))
  · exact ends.2.trans (refused.eq_of_keeps keeps)

theorem keeps_get_bind {next : σ → Action σ β} {state : σ} (keeps : (next state).Keeps state) :
    (get >>= next).Keeps state := by
  obtain ⟨result, after, ends⟩ := Ends.exists (get >>= next) state
  exact ends.2.trans ((ends_get_bind_iff.mp ends).eq_of_keeps keeps)

theorem keeps_ofExcept (value : Except Failure α) (state : σ) : (ofExcept value).Keeps state := by
  cases value <;> rfl

end HeaderTypes.Action
