import HeaderTypes.Document.Part

namespace HeaderTypes.Log
open Document (Part Value)

/-- The two kinds of scope, one inside the other or not. -/
inductive ScopeKind
  | phase
  | header
  deriving DecidableEq, Repr

/-- What lines are marked with in a scope of a value. The header in hand is told by its text. -/
def ScopeKind.mark (kind : ScopeKind) (value : Value) : Value :=
  match kind with
  | phase => value
  | header => .scalar (.text (((Part.ofValue value).text?).getD ""))

/-- What log lines are marked with: the run, its phase and the header in hand. -/
structure Context where
  runId : Value := .text "-"
  phase : Value := .text "-"
  header : Value := .text "-"

namespace Context

def value (context : Context) : ScopeKind → Value
  | .phase => context.phase
  | .header => context.header

def withValue (context : Context) (kind : ScopeKind) (value : Value) : Context :=
  match kind with
  | .phase => { context with phase := value }
  | .header => { context with header := value }

/-- Marks lines with a run, by a new name unless one is given that counts as set. -/
def withRun (context : Context) (fresh : String) (given : Option Value) : Context :=
  { context with runId := (given.filter (·.isSet)).getD (.text fresh) }

end Context

/-- A context with the scopes that are open, the innermost one first. Each
knows the value that held before it was opened. -/
structure Scopes where
  context : Context := {}
  opened : List (ScopeKind × Value) := []

namespace Scopes

/-- Opens a scope. -/
def enter (scopes : Scopes) (kind : ScopeKind) (value : Value) : Scopes :=
  ⟨scopes.context.withValue kind (kind.mark value),
    (kind, scopes.context.value kind) :: scopes.opened⟩

/-- Closes the innermost scope, whether or not it has failed, and puts back
the value that held before. -/
def leave (scopes : Scopes) : Scopes :=
  match scopes.opened with
  | [] => scopes
  | (kind, before) :: opened => ⟨scopes.context.withValue kind before, opened⟩

end Scopes

end HeaderTypes.Log
