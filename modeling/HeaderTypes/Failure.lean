import HeaderTypes.Text.Quoted
import HeaderTypes.Text.Utf8

namespace HeaderTypes

/-- What keeps a struct definition from being read. -/
inductive BlockFault
  /-- The text ends inside the head of the definition. -/
  | headCut
  /-- More than a tag stands before the opening brace. -/
  | headCrowded
  /-- No marker closes the definition; the name is known if it has a tag. -/
  | unclosed (name : Option String)
  deriving DecidableEq, Repr

/-- A struct definition that cannot be read, with the line it begins on. -/
structure MalformedBlock where
  line : Nat
  fault : BlockFault
  deriving DecidableEq, Repr

/-- A type name that is not registered where it is used. A `role` is told only
for a named field. -/
structure UnknownType where
  struct : String
  type : String
  field : Option String
  role : String
  deriving DecidableEq, Repr

/-- The causes for which an operation on the type graph refuses. -/
inductive Failure
  | unknownType (use : UnknownType)
  /-- A field statement of no known form. -/
  | malformedField (struct statement : String)
  | malformedBlock (block : MalformedBlock)
  /-- A second entry under a registered name. -/
  | duplicateType (name : String)
  /-- An entry after the registry was frozen. -/
  | frozen (name : String)
  /-- A lookup that must succeed found no entry. -/
  | noEntry (name : String)
  /-- A primitive came after the first header. -/
  | latePrimitive (name : String)
  /-- A list of primitives came after the first header. -/
  | latePrimitives
  /-- A header came after the model was exported. -/
  | lateHeader (origin : String)
  | headerNotFound (path : String)
  | undecodable (fault : Text.Utf8Fault)
  deriving DecidableEq, Repr

def BlockFault.reason : BlockFault → String
  | .headCut => "unexpected end of header"
  | .headCrowded => "unexpected tokens before '\x7b'"
  | .unclosed (some name) => "missing closing marker '\x7d " ++ name ++ ";'"
  | .unclosed none => "missing closing marker '\x7d <name>;'"

/-- The name of the struct, as far as the fault tells it. -/
def BlockFault.name? : BlockFault → Option String
  | .unclosed name => name
  | _ => none

/-- A struct without a name is spoken of as anonymous. -/
def MalformedBlock.message (block : MalformedBlock) : String :=
  let label := match block.fault.name? with
    | some name => if name = "" then "<anonymous>" else name
    | none => "<anonymous>"
  s!"Malformed struct block {label} at line {block.line}: " ++ block.fault.reason

def UnknownType.message (use : UnknownType) : String :=
  match use.field with
  | none => s!"Unknown type in struct {use.struct}: {use.type}"
  | some field =>
    s!"Unknown {use.role} type in struct {use.struct} (field {field}): {use.type}"

def Failure.message : Failure → String
  | .unknownType use => use.message
  | .malformedField struct statement =>
    s!"Couldn't parse struct field in {struct}: {Text.quoted statement}"
  | .malformedBlock block => block.message
  | .duplicateType name => s!"Type already registered: {name}"
  | .frozen name => s!"Cannot register {name}: registry is frozen after export"
  | .noEntry name => Text.quoted name
  | .latePrimitive name => s!"Cannot seed primitive {name}: scanning has already started"
  | .latePrimitives => "Cannot seed primitives: scanning has already started"
  | .lateHeader origin => s!"Cannot scan {origin}: the model was already exported"
  | .headerNotFound path => s!"Header not found: {path}"
  | .undecodable fault => fault.message

/-- The failures of the type graph itself, as against those of looking up an
entry and of reading a file. -/
def Failure.isGraphFailure : Failure → Bool
  | .noEntry _ | .headerNotFound _ | .undecodable _ => false
  | _ => true

end HeaderTypes
