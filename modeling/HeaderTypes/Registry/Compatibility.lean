import HeaderTypes.Registry.Basic

namespace HeaderTypes.Registry

/-- Every field has a compatible type. The first that has not decides, and
later fields are not looked up. -/
def allCompatible (r : Registry) : List Field → Except Failure Bool
  | [] => .ok true
  | field :: fields => do
    let type ← r.entry field.type
    if type.compatible then r.allCompatible fields else return false

/-- Registers a struct, which is compatible when all its fields are. -/
def addStruct (name : String) (fields : List Field) : Action Registry Descriptor := do
  let r ← Action.get
  let compatible ← Action.ofExcept (r.allCompatible fields)
  let struct ← add (.struct name fields compatible)
  Action.tell (.structClassified name fields.length compatible)
  return struct

end HeaderTypes.Registry
