import HeaderTypes.Log.Root

namespace HeaderTypes.Log

/-- Data tell the context of a record. -/
structure Marks (data : List (String × Datum)) (context : Context) : Prop where
  runId : data.lookup "run_id" = some (.ofValue context.runId)
  phase : data.lookup "phase" = some (.ofValue context.phase)
  header : data.lookup "header" = some (.ofValue context.header)

theorem Stamped.marks_data (stamped : Stamped) (timed : Bool) :
    Marks (stamped.data true timed) stamped.context := by
  constructor
  all_goals simp [Stamped.data, Stamped.marks, List.lookup_cons]

/-- A handler that knows the context and has a layout. -/
def Handler.setUp (layout : Layout) (handler : Handler) : Handler :=
  { handler with layout, filters := max 1 handler.filters }

theorem Handler.setUp_setUp (first second : Layout) (handler : Handler) :
    (handler.setUp first).setUp second = handler.setUp second := by
  rw [setUp, setUp, setUp, Nat.max_eq_right (Nat.le_max_left 1 handler.filters)]

theorem Handler.render_of_filters {handler : Handler} (marked : 0 < handler.filters)
    (stamped : Stamped) : handler.render stamped = handler.layout.render true stamped := by
  rw [render, decide_eq_true marked]

namespace Root
variable {root : Root} {level : Level} {template : String} {layout : Layout}

theorem withFilter_eq (handler : Handler) :
    withFilter handler = { handler with filters := max 1 handler.filters } := by
  obtain ⟨layout, filters, sink⟩ := handler
  cases filters with
  | zero => rfl
  | succ filters =>
    rw [withFilter, if_neg (Nat.succ_ne_zero filters), Nat.max_eq_right (Nat.succ_pos filters)]

/-- The handlers of a root, or the one that it is given because it has none. -/
def present (root : Root) : List Handler :=
  if root.handlers.isEmpty then [⟨.bare, 0, .standardError⟩] else root.handlers

/-- These handlers, each with one layout and in the know of the context. -/
def handlersWith (root : Root) (layout : Layout) : List Handler := root.present.map (.setUp layout)

theorem present_of_ne_nil (any : root.handlers ≠ []) : root.present = root.handlers :=
  if_neg (mt List.isEmpty_iff.mp any)

theorem handlersWith_ne_nil (root : Root) (layout : Layout) : root.handlersWith layout ≠ [] := by
  obtain ⟨handlers, level⟩ := root
  cases handlers <;> exact List.cons_ne_nil _ _

theorem configure_of_accepted (accepted : Layout.ofTemplate template = .ok layout) :
    root.configure level template = (.ok (), ⟨root.handlersWith layout, level⟩) := by
  have each : withFilter ∘ (fun handler : Handler => { handler with layout }) = .setUp layout :=
    funext fun handler => withFilter_eq { handler with layout }
  obtain ⟨handlers, before⟩ := root
  rw [configure, accepted]
  cases handlers with
  | nil => rfl
  | cons first others =>
    change (_, Root.mk (((first :: others).map fun handler => { handler with layout }).map
      withFilter) level) = _
    rw [List.map_map, each]
    rfl

theorem configure_of_refused {fault : TemplateFault}
    (refused : Layout.ofTemplate template = .error fault) :
    root.configure level template =
      (.error fault, ⟨root.handlers, if root.handlers = [] then root.level else level⟩) := by
  obtain ⟨handlers, before⟩ := root
  rw [configure, refused]
  cases handlers <;> rfl

/-- No layout is described by a template. -/
def Refused (template : String) : Prop := ∃ fault, Layout.ofTemplate template = .error fault

/-- A root after calls that configure it, refused or not. -/
def afterCalls (root : Root) (calls : List (Level × String)) : Root :=
  calls.foldl (fun root call => (root.configure call.1 call.2).2) root

theorem handlersWith_configure (root : Root) (level : Level) (template : String)
    (layout : Layout) :
    (root.configure level template).2.handlersWith layout = root.handlersWith layout := by
  cases described : Layout.ofTemplate template with
  | error fault =>
    rw [configure_of_refused described]
    rfl
  | ok before =>
    rw [configure_of_accepted described, handlersWith,
      present_of_ne_nil (root.handlersWith_ne_nil before), handlersWith, List.map_map]
    exact List.map_congr_left fun handler _ => handler.setUp_setUp before layout

/-- Calls give no handlers to a root that has some, and one and the same to a root that has none. -/
theorem handlersWith_afterCalls (root : Root) (calls : List (Level × String)) (layout : Layout) :
    (root.afterCalls calls).handlersWith layout = root.handlersWith layout := by
  induction calls generalizing root with
  | nil => rfl
  | cons call calls ih => exact (ih _).trans (root.handlersWith_configure call.1 call.2 layout)

theorem afterCalls_of_refused {calls : List (Level × String)}
    (refused : ∀ call ∈ calls, Refused call.2) (root : Root) :
    root.afterCalls calls =
      ⟨root.handlers, if root.handlers = [] then root.level
        else (calls.getLast?.map (·.1)).getD root.level⟩ := by
  induction calls generalizing root with
  | nil => simp [afterCalls]
  | cons call calls ih =>
    obtain ⟨⟨fault, described⟩, others⟩ := List.forall_mem_cons.mp refused
    have step : root.afterCalls (call :: calls) =
        (root.configure call.1 call.2).2.afterCalls calls := rfl
    rw [step, ih others, configure_of_refused described, List.getLast?_cons]
    by_cases none : root.handlers = []
    · simp [none]
    · cases calls.getLast? <;> simp [none]

/-- All that counts of calls is the last layout that is accepted and the level of the last call. -/
theorem afterCalls_of_accepted {before later : List (Level × String)}
    (accepted : Layout.ofTemplate template = .ok layout)
    (refused : ∀ call ∈ later, Refused call.2) (root : Root) :
    root.afterCalls (before ++ (level, template) :: later) =
      ⟨root.handlersWith layout, (later.getLast?.map (·.1)).getD level⟩ := by
  have split : root.afterCalls (before ++ (level, template) :: later) =
      (((root.afterCalls before).configure level template).2).afterCalls later :=
    List.foldl_append ..
  rw [split, configure_of_accepted accepted, handlersWith_afterCalls, afterCalls_of_refused refused,
    if_neg (root.handlersWith_ne_nil layout)]

/-- The layout that was accepted last. -/
def LastAccepted (calls : List (Level × String)) (layout : Layout) : Prop :=
  ∃ before level template later, calls = before ++ (level, template) :: later ∧
    Layout.ofTemplate template = .ok layout ∧ ∀ call ∈ later, Refused call.2

theorem exists_lastAccepted {calls : List (Level × String)}
    (any : ∃ call ∈ calls, ¬ Refused call.2) : ∃ layout, LastAccepted calls layout := by
  induction calls with
  | nil => exact absurd any (by simp)
  | cons call calls ih =>
    by_cases again : ∃ call ∈ calls, ¬ Refused call.2
    · obtain ⟨layout, before, level, template, later, rfl, accepted⟩ := ih again
      exact ⟨layout, call :: before, level, template, later, rfl, accepted⟩
    · have others : ∀ call ∈ calls, Refused call.2 := by simpa using again
      cases described : Layout.ofTemplate call.2 with
      | ok layout => exact ⟨layout, [], call.1, call.2, calls, rfl, described, others⟩
      | error fault =>
        obtain ⟨accepted, member, unrefused⟩ := any
        rcases List.mem_cons.mp member with rfl | member
        · exact absurd ⟨fault, described⟩ unrefused
        · exact absurd (others accepted member) unrefused

theorem sinks_handlersWith (root : Root) (layout : Layout) :
    (root.handlersWith layout).map (·.sink) =
      if root.handlers = [] then [.standardError] else root.handlers.map (·.sink) := by
  obtain ⟨handlers, level⟩ := root
  cases handlers with
  | nil => rfl
  | cons first others => simp [handlersWith, present, Handler.setUp]

theorem setUp_of_mem_handlersWith {handler : Handler}
    (single : ∀ handler ∈ root.handlers, handler.filters ≤ 1)
    (member : handler ∈ root.handlersWith layout) :
    handler.layout = layout ∧ handler.filters = 1 := by
  obtain ⟨before, among, rfl⟩ := List.mem_map.mp member
  have few : before.filters ≤ 1 := by
    by_cases none : root.handlers = []
    · rw [present, if_pos (List.isEmpty_iff.mpr none)] at among
      cases List.mem_singleton.mp among
      exact Nat.zero_le 1
    · exact single before (present_of_ne_nil none ▸ among)
  exact ⟨rfl, Nat.max_eq_left few⟩

/-- Every line is that of a handler. -/
theorem mem_emit {stamped : Stamped} {handler : Handler} {line : Except LineFault String}
    (any : root.handlers ≠ []) (written : (handler, some line) ∈ root.emit stamped) :
    handler ∈ root.handlers ∧ line = handler.render stamped := by
  unfold emit at written
  dsimp only at written
  split at written
  · obtain ⟨_, _, same⟩ := List.mem_map.mp written
    cases same
  · rw [if_neg (mt List.isEmpty_iff.mp any)] at written
    obtain ⟨_, member, same⟩ := List.mem_map.mp written
    cases same
    exact ⟨member, rfl⟩

theorem configure_refuses_iff :
    (∃ fault, (root.configure level template).1 = .error fault) ↔ Refused template := by
  cases described : Layout.ofTemplate template with
  | ok layout => simp [configure_of_accepted described, Refused, described]
  | error fault => simp [configure_of_refused described, Refused, described]

theorem configure_configure :
    ((root.configure level template).2.configure level template).2 =
      (root.configure level template).2 := by
  cases described : Layout.ofTemplate template with
  | ok layout =>
    have same := root.handlersWith_configure level template layout
    rw [configure_of_accepted described] at same ⊢
    rw [configure_of_accepted described, same]
  | error fault =>
    rw [configure_of_refused described, configure_of_refused described]
    by_cases none : root.handlers = [] <;> simp [none]

/-- Calls that configure logging keep the handlers that there are, or leave one in place of none,
and all of them know the context once. They have the layout that was accepted last, and the root
has the level of the last call. A call that is refused changes at most the level, and one that is
made again changes nothing. -/
theorem afterCalls_configured (root : Root)
    (single : ∀ handler ∈ root.handlers, handler.filters ≤ 1) (calls : List (Level × String)) :
    (∀ level template,
      ((∃ fault, (root.configure level template).1 = .error fault) ↔ Refused template) ∧
      root.afterCalls [(level, template), (level, template)] =
        root.afterCalls [(level, template)]) ∧
    ((∀ call ∈ calls, Refused call.2) → (root.afterCalls calls).handlers = root.handlers) ∧
    ((∃ call ∈ calls, ¬ Refused call.2) → ∃ layout, LastAccepted calls layout ∧
      let after := root.afterCalls calls
      (∀ handler ∈ after.handlers, handler.layout = layout ∧ handler.filters = 1) ∧
      calls.getLast?.map (·.1) = some after.level ∧
      after.handlers.map (·.sink) =
        (if root.handlers = [] then [.standardError] else root.handlers.map (·.sink)) ∧
      ∀ stamped handler line, (handler, some line) ∈ after.emit stamped →
        handler ∈ after.handlers ∧ line = layout.render true stamped ∧
          Marks (stamped.data true layout.timed) stamped.context) := by
  refine ⟨fun level template => ⟨configure_refuses_iff, configure_configure⟩,
    fun refused => by rw [afterCalls_of_refused refused], fun any => ?_⟩
  -- all calls before the last one that is accepted leave no trace but that there are handlers
  obtain ⟨layout, before, level, template, later, rfl, accepted, refused⟩ := exists_lastAccepted any
  refine ⟨layout, ⟨before, level, template, later, rfl, accepted, refused⟩, ?_⟩
  intro after
  have left : after =
      ⟨root.handlersWith layout, (later.getLast?.map (·.1)).getD level⟩ :=
    afterCalls_of_accepted accepted refused root
  have setUp (handler : Handler) (member : handler ∈ after.handlers) :
      handler.layout = layout ∧ handler.filters = 1 :=
    setUp_of_mem_handlersWith single (by rwa [left] at member)
  refine ⟨setUp, ?_, ?_, fun stamped handler line written => ?_⟩
  · rw [left, List.getLast?_append, List.getLast?_cons]
    cases later.getLast? <;> rfl
  · rw [left]
    exact root.sinks_handlersWith layout
  · have any : after.handlers ≠ [] := left ▸ root.handlersWith_ne_nil layout
    obtain ⟨member, rfl⟩ := mem_emit any written
    obtain ⟨rfl, one⟩ := setUp handler member
    exact ⟨member, Handler.render_of_filters (one ▸ Nat.zero_lt_one) stamped,
      stamped.marks_data _⟩

/-- Calls of which the last one is refused. -/
def someCalls : List (Level × String) :=
  [(.debug, contextTemplate), (⟨25⟩, bareTemplate), (.error, "plain")]

theorem afterCalls_configured_someCalls :
    (∀ handler ∈ (ofHandlers 2).handlers, handler.filters ≤ 1) ∧
    (∃ call ∈ someCalls, ¬ Refused call.2) ∧
    ∃ layout, LastAccepted someCalls layout ∧
      (∀ handler ∈ ((ofHandlers 2).afterCalls someCalls).handlers,
        handler.layout = layout ∧ handler.filters = 1) ∧
      some Level.error = some ((ofHandlers 2).afterCalls someCalls).level ∧
      ((ofHandlers 2).afterCalls someCalls).handlers.map (·.sink) = [.host 0, .host 1] := by
  have single : ∀ handler ∈ (ofHandlers 2).handlers, handler.filters ≤ 1 := by decide +kernel
  have accepted : Layout.ofTemplate bareTemplate = .ok .bare := by
    rw [Layout.ofTemplate, if_neg (by decide +kernel), if_pos (by decide +kernel), Layout.bare]
  have any : ∃ call ∈ someCalls, ¬ Refused call.2 := by
    refine ⟨(⟨25⟩, bareTemplate), by decide +kernel, ?_⟩
    rintro ⟨fault, refused⟩
    cases accepted.symm.trans refused
  obtain ⟨layout, last, setUp, level, sinks, -⟩ :=
    (afterCalls_configured (ofHandlers 2) single someCalls).2.2 any
  exact ⟨single, any, layout, last, setUp, level, sinks⟩

/-- A template without a place is refused, and then no handler knows the context. -/
theorem afterCalls_plain :
    (ofHandlers 1).afterCalls [(.info, "plain")] = ⟨[⟨.bare, 0, .host 0⟩], .info⟩ ∧
      ¬ ∀ handler ∈ ((ofHandlers 1).afterCalls [(.info, "plain")]).handlers,
        handler.filters = 1 := by
  decide +kernel

end Root

end HeaderTypes.Log
