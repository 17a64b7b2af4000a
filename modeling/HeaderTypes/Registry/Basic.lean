import HeaderTypes.Action
import HeaderTypes.Descriptor

namespace HeaderTypes

/-- The types of a header set, in the order in which they were registered,
each under the canonical spelling of its name. Nothing is added once frozen. -/
structure Registry where
  entries : List Descriptor := []
  frozen : Bool := false
  deriving DecidableEq, Repr

namespace Registry
open Text (Loose)

/-- The entry under a canonical name. -/
def entry? (r : Registry) (key : Loose) : Option Descriptor := r.entries.find? (·.name = key)

/-- The entry of a type, however its name is spelled. -/
def find? (r : Registry) (name : String) : Option Descriptor := r.entry? (TypeName.canonical name)

/-- A canonical name is registered. -/
def has (r : Registry) (key : Loose) : Bool := (r.entry? key).isSome

/-- A type is registered, however its name is spelled. -/
def contains (r : Registry) (name : Loose) : Bool := r.has (TypeName.key name)

/-- The entry of a type that has to be there. -/
def entry (r : Registry) (name : String) : Except Failure Descriptor :=
  match r.find? name with
  | some d => .ok d
  | none => .error (.noEntry (TypeName.canonical name))

def size (r : Registry) : Nat := r.entries.length

def names (r : Registry) : List String := r.entries.map (·.name.text)

/-- The structs in the order of registration. -/
def structs (r : Registry) : List Descriptor := r.entries.filter (·.isStruct)

/-- The canonical name of a type that a struct uses, if it is registered. -/
def resolve (r : Registry) (type struct : String) (field : Option String) (role : String) :
    Except Failure String :=
  let key := TypeName.canonical type
  if r.has key then .ok key else .error (.unknownType ⟨struct, key, field, role⟩)

/-- Ends all registration. -/
def freeze : Action Registry Unit := .update fun r => { r with frozen := true }

/-- Registers a type unless its name is taken, and says whether it did. -/
def insert (d : Descriptor) : Action Registry Bool := do
  let key := TypeName.key d.name
  let r ← Action.get
  if r.frozen then Action.refuse (.frozen key.text)
  else if r.has key then return false
  else
    Action.update fun r => { r with entries := r.entries ++ [{ d with name := key }] }
    Action.tell (.registered d.shape.kind key.text d.compatible)
    return true

/-- Registers a type whose name must be free. -/
def add (d : Descriptor) : Action Registry Descriptor := do
  if ← insert d then return d else Action.refuse (.duplicateType d.name.text)

end Registry

end HeaderTypes
