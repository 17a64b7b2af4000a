import HeaderTypes.Text.Loose

namespace HeaderTypes.Files
open Text (Loose)

/-- Where a path starts. Two leading slashes, and no more, are kept apart from one. -/
inductive Anchor
  | relative
  | root
  | doubleRoot
  deriving DecidableEq, Repr

/-- A place in a tree of files, as a text spells it. No part is empty or a
single point. -/
structure Path where
  anchor : Anchor
  parts : List Loose
  deriving DecidableEq, Repr

/-- The names between the slashes of a text, empty ones left out. -/
def names (text : Loose) : List Loose :=
  ((Text.splitOn '/'.toNat text.points).filter (· ≠ [])).map .ofPoints

def Anchor.ofText (text : Loose) : Anchor :=
  match text.text.toList with
  | '/' :: '/' :: '/' :: _ => root
  | '/' :: '/' :: _ => doubleRoot
  | '/' :: _ => root
  | _ => relative

def Anchor.text : Anchor → String
  | relative => ""
  | root => "/"
  | doubleRoot => "//"

namespace Path

def ofText (text : Loose) : Path := ⟨.ofText text, (names text).filter (·.text ≠ ".")⟩

/-- The empty path is a single point. -/
def text (path : Path) : Loose :=
  if path.anchor = .relative && path.parts.isEmpty then "."
  else (path.anchor.text : Loose) ++ .intercalate "/" path.parts

def isAbsolute (path : Path) : Bool := path.anchor ≠ .relative

/-- A path seen from another one. One that is absolute stays what it is. -/
def join (base path : Path) : Path :=
  if path.isAbsolute then path else ⟨base.anchor, base.parts ++ path.parts⟩

def parent (path : Path) : Path := { path with parts := path.parts.dropLast }

/-- A part, or the step back over one. There is nothing above a root. -/
def step (anchor : Anchor) (passed : List Loose) (part : Loose) : List Loose :=
  if part.text ≠ ".." then part :: passed
  else
    match passed with
    | [] => if anchor = .relative then [part] else []
    | last :: rest => if last.text = ".." then part :: passed else rest

/-- The path without the parts that it steps back over. -/
def normal (path : Path) : Path :=
  { path with parts := (path.parts.foldl (step path.anchor) []).reverse }

/-- The last point of a name and what follows it, if something stands on either side. -/
def suffix (path : Path) : String :=
  let name := (path.parts.getLast?.getD "").text.toList
  let ending := (name.reverse.takeWhile (· ≠ '.')).reverse
  if ending ≠ [] && ending.length + 1 < name.length then String.ofList ('.' :: ending) else ""

end Path

/-- A name in a directory, both as texts. An absolute name stays what it is. -/
def joinTexts (directory name : Loose) : Loose :=
  if name.text.toList.head? = some '/' || directory.isEmpty then name
  else if directory.text.toList.getLast? = some '/' then directory ++ name
  else directory ++ "/" ++ name

/-- Characters without the slashes at their end, unless there is nothing else. -/
def dropFinalSlashes (s : List Char) : List Char :=
  let kept := (s.reverse.dropWhile (· = '/')).reverse
  if kept = [] then s else kept

/-- A text before and after its last slash. Slashes between the two are dropped. -/
def splitLast (text : Loose) : Loose × Loose :=
  let s := text.text.toList
  let last := (s.reverse.takeWhile (· ≠ '/')).length
  let head := (dropFinalSlashes (s.take (s.length - last))).length
  (.ofPoints (text.points.take head), .ofPoints (text.points.drop (s.length - last)))

end HeaderTypes.Files
