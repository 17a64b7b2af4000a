import HeaderTypes.Field.Declaration
import HeaderTypes.Registry.Basic

namespace HeaderTypes.Registry

/-- The calling conventions that function pointers may name. Without a list any will do. -/
abbrev Tags := Option (List String)

def Tags.accept (tags : Tags) (tag : String) : Bool :=
  match tags with
  | none => true
  | some accepted => accepted.contains tag

/-- The canonical names of types that a struct uses in a named field, up to
one that is not registered. -/
def resolveEach (r : Registry) (struct field role : String) :
    List String → Except Failure (List String)
  | [] => .ok []
  | type :: types => do
    let key ← r.resolve type struct (some field) role
    let keys ← r.resolveEach struct field role types
    return key :: keys

/-- The return type of a function pointer, nothing for `void`. -/
def resolveReturn (r : Registry) (struct field type : String) : Except Failure (Option String) :=
  if type = TypeName.void then .ok none
  else (r.resolve type struct (some field) "return").map some

/-- The field that a statement declares, and for a function pointer its
signature, which is not registered yet. Parameters are looked up from left to
right, then the return type. -/
def readField (tags : Tags) (struct statement : String) :
    Action Registry (Field × Option Descriptor) := do
  let r ← Action.get
  match Declaration.ofStatement? statement with
  | none => Action.refuse (.malformedField struct statement)
  | some (.direct type name) =>
    let key ← Action.ofExcept (r.resolve type struct none "field")
    Action.tell (.fieldRead struct name key)
    return (⟨key, name⟩, none)
  | some (.pointer returns tag name arguments) =>
    if !tags.accept tag || returns = "" then Action.refuse (.malformedField struct statement)
    else
      let arguments ← Action.ofExcept (r.resolveEach struct name "argument" arguments)
      let returns ← Action.ofExcept (r.resolveReturn struct name returns)
      Action.tell (.pointerRead struct name arguments returns)
      let key := TypeName.ofSignature struct name
      return (⟨key, name⟩, some (.signature key returns arguments))

/-- The field that a statement declares, its signature registered if it has one. -/
def addField (tags : Tags) (struct statement : String) : Action Registry Field := do
  let (field, signature) ← readField tags struct statement
  match signature with
  | none => return field
  | some signature =>
    let _ ← add signature
    return field

/-- `readField` on statements in order. -/
def readEach (tags : Tags) (struct : String) :
    List String → Action Registry (List (Field × Option Descriptor))
  | [] => return []
  | statement :: statements => do
    let field ← readField tags struct statement
    let fields ← readEach tags struct statements
    return field :: fields

/-- The first of some entries whose name is registered or belongs to an earlier one. -/
def firstTaken? (r : Registry) : (seen : List Text.Loose) → List Descriptor → Option String
  | _, [] => none
  | seen, d :: ds =>
    if seen.contains d.name || r.contains d.name then some d.name.text
    else r.firstTaken? (d.name :: seen) ds

/-- Registers entries in order. -/
def addEach : List Descriptor → Action Registry Unit
  | [] => return ()
  | d :: ds => do
    let _ ← add d
    addEach ds

/-- The fields of a struct body. The signatures are registered only after
every statement was read and no name clashes. -/
def addFields (tags : Tags) (struct body : String) : Action Registry (List Field) := do
  let fields ← readEach tags struct (Declaration.statements body)
  let signatures := fields.filterMap (·.2)
  let r ← Action.get
  match r.firstTaken? [] signatures with
  | some name => Action.refuse (.duplicateType name)
  | none =>
    addEach signatures
    return fields.map (·.1)

end HeaderTypes.Registry
