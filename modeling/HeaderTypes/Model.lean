import HeaderTypes.Registry.Basic

namespace HeaderTypes

/-- A field of an exported struct. A function pointer carries its return type
and its arguments, so that no registry is needed to make use of it. -/
structure ModelField where
  type : String
  name : String
  signature : Option (Option String × List String)
  deriving DecidableEq, Repr

structure ModelStruct where
  name : String
  compatible : Bool
  fields : List ModelField
  deriving DecidableEq, Repr

/-- An exported type graph: the structs in the order of registration, and all
that is neither struct nor signature. -/
structure Model where
  structs : List ModelStruct
  primitives : List Descriptor
  deriving DecidableEq, Repr

namespace Registry

def modelField (r : Registry) (field : Field) : Except Failure ModelField := do
  let type ← r.entry field.type
  let signature := match type.shape with
    | .signature returns arguments => some (returns, arguments)
    | _ => none
  return ⟨field.type, field.name, signature⟩

def modelFields (r : Registry) : List Field → Except Failure (List ModelField)
  | [] => .ok []
  | field :: fields => do
    let first ← r.modelField field
    let rest ← r.modelFields fields
    return first :: rest

def modelStructs (r : Registry) : List Descriptor → Except Failure (List ModelStruct)
  | [] => .ok []
  | d :: ds => do
    let fields ← r.modelFields d.fields
    let rest ← r.modelStructs ds
    return ⟨d.name.text, d.compatible, fields⟩ :: rest

/-- The model of a registry. Every field type must be registered. -/
def model (r : Registry) : Except Failure Model := do
  let structs ← r.modelStructs r.structs
  return ⟨structs, r.entries.filter (·.isBase)⟩

/-- Freezes the registry and gives its structs in the order of registration. -/
def close : Action Registry (List Descriptor) := do
  freeze
  let r ← Action.get
  Action.tell (.modelExported r.structs.length (r.structs.countP (·.compatible)))
  return r.structs

end Registry

end HeaderTypes
