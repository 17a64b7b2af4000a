import HeaderTypes.Log.Layout

namespace HeaderTypes.Log

/-- Where log lines go: to standard error, or to a place that the host program has set up. -/
inductive Sink
  | standardError
  | host (place : Nat)
  deriving DecidableEq, Repr

/-- What writes log lines somewhere, and in which layout. It may have filters
that give records their context. -/
structure Handler where
  layout : Layout
  filters : Nat
  sink : Sink
  deriving DecidableEq, Repr

def Handler.toStandardError (handler : Handler) : Bool := handler.sink = .standardError

/-- The line of a record, which knows its context by the filters. -/
def Handler.render (handler : Handler) (stamped : Stamped) : Except LineFault String :=
  handler.layout.render (0 < handler.filters) stamped

/-- The handlers of all records that matter enough. -/
structure Root where
  handlers : List Handler
  level : Level
  deriving DecidableEq, Repr

namespace Root

/-- A root with handlers of its own, as it is before it is configured. -/
def ofHandlers (count : Nat) : Root :=
  ⟨(List.range count).map fun place => ⟨.bare, 0, .host place⟩, .warning⟩

/-- A handler has one filter for the context. -/
def withFilter (handler : Handler) : Handler :=
  if handler.filters = 0 then { handler with filters := 1 } else handler

/-- Sets the level and the layout of all handlers and sees to it that they
know the context. Without handlers there will be one to standard error. -/
def configure (root : Root) (level : Level) (template : String) :
    Except TemplateFault Unit × Root :=
  match Layout.ofTemplate template with
  | .error fault =>
    (.error fault, if root.handlers.isEmpty then root else { root with level })
  | .ok layout =>
    let handlers :=
      if root.handlers.isEmpty then [⟨layout, 0, .standardError⟩]
      else root.handlers.map fun handler => { handler with layout }
    (.ok (), ⟨handlers.map withFilter, level⟩)

/-- A record of a level is handled. One without a positive level never is. -/
def enabled (root : Root) (level : Level) : Bool :=
  0 < level.number && root.level.number ≤ level.number

/-- The line that each handler writes for a record, if any, or why it cannot.
Without handlers the message itself goes to standard error, if it is a warning
or more. -/
def emit (root : Root) (stamped : Stamped) : List (Handler × Option (Except LineFault String)) :=
  let line (handler : Handler) := (handler, some (handler.render stamped))
  if !root.enabled stamped.record.level then root.handlers.map (·, none)
  else if root.handlers.isEmpty then
    if Level.warning.number ≤ stamped.record.level.number then
      [line ⟨.bare, 0, .standardError⟩]
    else []
  else root.handlers.map line

end Root

end HeaderTypes.Log
