import HeaderTypes.TypeName

namespace HeaderTypes

/-- A struct field: the registered name of its type and its own name. -/
structure Field where
  type : String
  name : String
  deriving DecidableEq, Repr

/-- What a type is made of. A signature without a return type returns nothing. -/
inductive Shape
  | primitive
  | struct (fields : List Field)
  | signature (returns : Option String) (arguments : List String)
  /-- A kind that no operation gives a meaning to. -/
  | other (kind : String)
  deriving DecidableEq, Repr

/-- A type of a header set. It is `compatible` when a binding may treat its
values as plain data. -/
structure Descriptor where
  name : Text.Loose
  compatible : Bool
  shape : Shape
  deriving DecidableEq, Repr

def Shape.kind : Shape → String
  | .primitive => "Primitive"
  | .struct _ => "Struct"
  | .signature _ _ => "FunctionSignature"
  | .other kind => kind

namespace Descriptor

/-- A base type, such as an integer. -/
def primitive (name : Text.Loose) (compatible : Bool) : Descriptor := ⟨name, compatible, .primitive⟩

def struct (name : String) (fields : List Field) (compatible : Bool) : Descriptor :=
  ⟨name, compatible, .struct fields⟩

/-- The signature of a function pointer, which is never plain data. -/
def signature (name : String) (returns : Option String) (arguments : List String) : Descriptor :=
  ⟨name, false, .signature returns arguments⟩

def isStruct (d : Descriptor) : Bool :=
  match d.shape with
  | .struct _ => true
  | _ => false

def isSignature (d : Descriptor) : Bool :=
  match d.shape with
  | .signature _ _ => true
  | _ => false

/-- Entries that are neither struct nor signature count as base types. -/
def isBase (d : Descriptor) : Bool := !d.isStruct && !d.isSignature

/-- The fields of a struct; nothing else has any. -/
def fields (d : Descriptor) : List Field :=
  match d.shape with
  | .struct fields => fields
  | _ => []

end Descriptor

end HeaderTypes
