import HeaderTypes.TypeName

namespace HeaderTypes
open Text

/-- What a field statement says, by its text alone. Types are in their
canonical spelling; that of a pointer's return may be empty. -/
inductive Declaration
  /-- A type and a name. -/
  | direct (type name : String)
  /-- A return type, then in parentheses a calling convention, a star and a
  name, then the parameters in parentheses. -/
  | pointer (returns tag name : String) (arguments : List String)
  deriving DecidableEq, Repr

namespace Declaration

/-- The statements of a struct body, each ended by a semicolon. -/
def statements (body : String) : List String :=
  (trimmedParts ';' body.toList).map String.ofList

/-- A declaration cut before its last name. The name follows a blank or a star
and something stands before it. -/
def cutLastName? (declaration : List Char) : Option (List Char × List Char) :=
  let s := (trim declaration).reverse
  let name := (s.takeWhile TypeName.isPlain).reverse
  let type := (s.dropWhile TypeName.isPlain).reverse
  if isName name && type ≠ [] then some (TypeName.spelling type, name) else none

/-- The type of a parameter, whose name may be left out. The last of several
words is taken for a name. -/
def parameterType (parameter : List Char) : List Char :=
  match cutLastName? parameter with
  | some (type, _) => type
  | none => TypeName.spelling parameter

/-- The types of a parameter list. The word `void` alone stands for none. -/
def parameterTypes (parameters : List Char) : List (List Char) :=
  let parts := trimmedParts ',' parameters
  if parts = [TypeName.void.toList] then [] else parts.map parameterType

/-- What follows a character at the head of a text, blanks before it skipped. -/
def after? (wanted : Char) (s : List Char) : Option (List Char) :=
  match dropBlanks s with
  | [] => none
  | c :: rest => if c = wanted then some rest else none

/-- The text before the parenthesis that ends it; one newline may follow that. -/
def beforeLastParen? (s : List Char) : Option (List Char) :=
  match s.reverse with
  | ')' :: inside => some inside.reverse
  | '\n' :: ')' :: inside => some inside.reverse
  | _ => none

/-- A calling convention, a star and a name in parentheses, then parameters in
parentheses that end the text: the convention, the name and the parameters. -/
def declarator? (s : List Char) : Option (List Char × List Char × List Char) := do
  let s ← after? '(' s
  let (tag, s) ← readName? (dropBlanks s)
  let s ← after? '*' s
  let (name, s) ← readName? (dropBlanks s)
  let s ← after? ')' s
  let s ← after? '(' s
  let parameters ← beforeLastParen? s
  return (tag, name, parameters)

/-- The shortest text that a declarator follows, and that declarator. -/
def splitDeclarator? : List Char → Option (List Char × List Char × List Char × List Char)
  | [] => none
  | c :: s =>
    match declarator? (c :: s) with
    | some parts => some ([], parts)
    | none => (splitDeclarator? s).map fun (before, parts) => (c :: before, parts)

/-- What a statement says. It is read as a function pointer wherever it can be. -/
def ofStatement? (statement : String) : Option Declaration :=
  match splitDeclarator? statement.toList with
  | some (returns, tag, name, parameters) =>
    some <| .pointer (String.ofList (TypeName.spelling returns)) (String.ofList tag)
      (String.ofList name) ((parameterTypes parameters).map String.ofList)
  | none =>
    (cutLastName? statement.toList).map fun (type, name) =>
      .direct (String.ofList type) (String.ofList name)

end Declaration

end HeaderTypes
