import HeaderTypes.Files.Path
import HeaderTypes.Text.Halves

namespace HeaderTypes.Files
open Text (Loose)

/-- Why the system refuses an operation on files. -/
inductive Cause
  | notFound
  | taken
  | notADirectory
  | isADirectory
  | nameTooLong
  /-- Directories inside too many others cannot be made together. -/
  | tooDeep
  /-- No path may hold the null character. -/
  | nullCharacter
  /-- Halves of surrogate pairs, in a path or in what is to be written. -/
  | halves (fault : Text.HalvesFault)
  deriving DecidableEq, Repr

/-- A refusal with the path it is about. -/
structure Fault where
  cause : Cause
  path : Loose
  deriving DecidableEq, Repr

/-- The text of a fault: the number that the system has for its cause, the
words for that, and the path. -/
def Fault.message (fault : Fault) : String :=
  let numbered (number : Nat) (words : String) :=
    s!"[Errno {number}] {words}: " ++ fault.path.quoted
  match fault.cause with
  | .notFound => numbered 2 "No such file or directory"
  | .taken => numbered 17 "File exists"
  | .notADirectory => numbered 20 "Not a directory"
  | .isADirectory => numbered 21 "Is a directory"
  | .nameTooLong => numbered 36 "File name too long"
  | .tooDeep => "maximum recursion depth exceeded"
  | .nullCharacter => "embedded null byte"
  | .halves fault => fault.message

inductive Node
  | directory
  | file (content : List UInt8)
  deriving DecidableEq, Repr

/-- The names from the root down to a place. -/
abbrev Route := List String

/-- Files and directories, each with its route, and the working directory.
There is always a root. -/
structure Tree where
  nodes : List (Route × Node)
  workingDirectory : Route
  deriving DecidableEq, Repr

namespace Tree

/-- What is at a route. -/
def node? (tree : Tree) (route : Route) : Option Node :=
  if route = [] then some .directory else tree.nodes.lookup route

/-- Puts a node at a route, in place of the one that is there. -/
def put (tree : Tree) (route : Route) (node : Node) : Tree :=
  if (tree.nodes.lookup route).isSome then
    { tree with
      nodes := tree.nodes.map fun entry => if entry.1 = route then (route, node) else entry }
  else { tree with nodes := tree.nodes ++ [(route, node)] }

/-- The names of a path as characters. -/
def steps (path : String) : List String := (names path).map (·.text)

/-- Where the names of a path are counted from. -/
def start (tree : Tree) (path : String) : Route :=
  if path.toList.head? = some '/' then [] else tree.workingDirectory

/-- Puts a directory where there is nothing. -/
def withDirectory (tree : Tree) (route : Route) : Tree :=
  if (tree.node? route).isSome then tree else tree.put route .directory

/-- Puts a file at the end of a list of names, with a directory at each of the others. -/
def withFileAlong (tree : Tree) (route : Route) (content : List UInt8) : List String → Tree
  | [] => tree
  | [name] => tree.put (route ++ [name]) (.file content)
  | name :: names =>
    let next :=
      if name = "." then route else if name = ".." then route.dropLast else route ++ [name]
    (tree.withDirectory next).withFileAlong next content names

/-- A file at a path, with the directories on the way to it. -/
def withFile (tree : Tree) (path : String) (content : List UInt8) : Tree :=
  tree.withFileAlong (tree.start path) content (steps path)

/-- The directories down to a working directory and nothing else. -/
def withoutFiles (workingDirectory : Route) : Tree :=
  let above := (List.range (workingDirectory.length + 1)).map workingDirectory.take
  above.foldl withDirectory ⟨[], workingDirectory⟩

/-- No name has more bytes than this. -/
def longestName : Nat := 255

/-- No path has more bytes than this. -/
def longestPath : Nat := 4095

def isTooLong (name : String) : Bool := longestName < name.utf8ByteSize

/-- Goes from a directory along names. Every step but the last leads to a directory. -/
def walk (tree : Tree) (route : Route) : List String → Except Cause Route
  | [] => .ok route
  | name :: rest =>
    if tree.node? route ≠ some .directory then .error .notADirectory
    else if name = "." then tree.walk route rest
    else if name = ".." then tree.walk route.dropLast rest
    else if isTooLong name then .error .nameTooLong
    else if (tree.node? (route ++ [name])).isSome then tree.walk (route ++ [name]) rest
    else .error .notFound

/-- A path that ends with a slash is that of a directory. -/
def endsWithSlash (path : String) : Bool := path.toList.getLast? = some '/'

/-- A path as characters, if it can be looked up at all. -/
def lookable (path : Loose) : Except Cause String :=
  match Text.nameFault? path with
  | some fault => .error (.halves fault)
  | none =>
    let path := Text.pathText path
    if path.toList.contains '\x00' then .error .nullCharacter
    else if longestPath < path.utf8ByteSize then .error .nameTooLong
    else .ok path

/-- What a path leads to, or why it leads nowhere. -/
def find (tree : Tree) (path : Loose) : Except Cause Node := do
  let path ← lookable path
  if path = "" then .error .notFound
  else
    match tree.node? (← tree.walk (tree.start path) (steps path)) with
    | some .directory => return .directory
    | some node => if endsWithSlash path then .error .notADirectory else return node
    | none => .error .notFound

/-- What a path leads to, if anything. -/
def find? (tree : Tree) (path : Loose) : Option Node := (tree.find path).toOption

/-- The content of the file that a path leads to. -/
def file? (tree : Tree) (path : Loose) : Option (List UInt8) :=
  match tree.find? path with
  | some (.file content) => some content
  | _ => none

def isDirectory (tree : Tree) (path : Loose) : Bool := tree.find? path = some .directory

/-- The directory of a path's last name, and that name. -/
def place (tree : Tree) (path : Loose) : Except Cause (Route × String) := do
  let path ← lookable path
  match (steps path).getLast? with
  | none => .error (if path = "" then .notFound else .taken)
  | some name =>
    let route ← tree.walk (tree.start path) (steps path).dropLast
    if tree.node? route ≠ some .directory then .error .notADirectory
    else return (route, name)

/-- Makes a directory in one that is there. -/
def makeDirectory (tree : Tree) (path : Loose) : Except Fault Tree :=
  match tree.place path with
  | .error cause => .error ⟨cause, path⟩
  | .ok (route, name) =>
    if name = "." || name = ".." then .error ⟨.taken, path⟩
    else if isTooLong name then .error ⟨.nameTooLong, path⟩
    else if (tree.node? (route ++ [name])).isSome then .error ⟨.taken, path⟩
    else .ok (tree.put (route ++ [name]) .directory)

/-- The directory above a path and the last name of the path. Slashes at its end do not count. -/
def above (path : Loose) : Loose × Loose :=
  let (head, last) := splitLast path
  if last.isEmpty then splitLast head else (head, last)

/-- Makes a directory with those above it, and says what kept it from that.
One that is there already will do, and what is in its place above is left to
the next step to find. No more directories can be made together than there is room for. -/
def makeDirectories : (room : Nat) → (tree : Tree) → (path : Loose) → Tree × Option Fault
  | 0, tree, path => (tree, some ⟨.tooDeep, path⟩)
  | room + 1, tree, path =>
    let (head, last) := above path
    let missing := !head.isEmpty && !last.isEmpty && (tree.find? head).isNone
    let (tree, fault) := if missing then makeDirectories room tree head else (tree, none)
    match fault.filter (·.cause ≠ .taken) with
    | some fault => (tree, some fault)
    | none =>
      if missing && last.text = "." then (tree, none)
      else
        match tree.makeDirectory path with
        | .ok tree => (tree, none)
        | .error fault => (tree, if tree.isDirectory path then none else some fault)

/-- How many directories can be made together. -/
def deepest : Nat := 992

/-- Sees to it that there is a directory at a path. -/
def ensureDirectory (tree : Tree) (path : Loose) : Tree × Option Fault :=
  makeDirectories deepest tree path

/-- Writes a file in a directory that is there. -/
def write (tree : Tree) (path : Loose) (content : List UInt8) : Except Fault Tree :=
  match tree.place path with
  | .error .taken => .error ⟨.isADirectory, path⟩
  | .error cause => .error ⟨cause, path⟩
  | .ok (route, name) =>
    if endsWithSlash path.text || name = "." || name = ".." then .error ⟨.isADirectory, path⟩
    else if isTooLong name then .error ⟨.nameTooLong, path⟩
    else if tree.node? (route ++ [name]) = some .directory then .error ⟨.isADirectory, path⟩
    else .ok (tree.put (route ++ [name]) (.file content))

/-- The path of the working directory. -/
def workingPath (tree : Tree) : Path := ⟨.root, tree.workingDirectory.map fun name : String => name⟩

/-- The path from the root, without steps back. -/
def absolute (tree : Tree) (path : Loose) : Path := (tree.workingPath.join (.ofText path)).normal

end Tree

end HeaderTypes.Files
