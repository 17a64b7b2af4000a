import HeaderTypes.Registry.Basic

namespace HeaderTypes

/-- The primitives that plugin headers build on. Handles to the plugin entry
and texts are no plain data. -/
def pluginPrimitives : List (Text.Loose × Bool) :=
  [("uint32_t", true), ("uint64_t", true), ("float32_t", true), ("float64_t", true),
    ("bool", true), ("const char *", false), ("clap_plugin_entry_t", false)]

namespace Registry

/-- Registers a primitive. A name that is taken keeps its entry. -/
def insertPrimitive (name : Text.Loose) (compatible : Bool) : Action Registry Bool := do
  let added ← insert (.primitive name compatible)
  if added then return true
  else
    Action.tell (.primitiveKept name.text)
    return false

/-- Registers primitives in order and counts those that were added. -/
def insertEach : List (Text.Loose × Bool) → Action Registry Nat
  | [] => return 0
  | (name, compatible) :: primitives => do
    let added ← insertPrimitive name compatible
    let more ← insertEach primitives
    return (if added then 1 else 0) + more

/-- `insertEach`, telling of the number. -/
def insertPrimitives (primitives : List (Text.Loose × Bool)) : Action Registry Nat := do
  let count ← insertEach primitives
  Action.tell (.primitivesSeeded count)
  return count

end Registry

end HeaderTypes
