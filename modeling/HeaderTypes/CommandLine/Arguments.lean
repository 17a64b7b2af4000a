import HeaderTypes.Text.Digit

namespace HeaderTypes.CommandLine

/-- What a run is asked to do. The flag for a manifest may be there without a path. -/
structure Settings where
  manifest : Option String
  outputFile : Option String
  runId : Option String
  verbose : Bool
  deriving DecidableEq, Repr

/-- What a list of arguments asks for, which is nothing if it is misused. -/
inductive Request
  | run (settings : Settings)
  | help
  | misuse
  deriving DecidableEq, Repr

inductive Flag
  | help
  | manifest
  | outputFile
  | runId
  | verbose
  deriving DecidableEq, Repr

/-- The flags as they are written. Help has a short form too. -/
def flagNames : List (String × Flag) :=
  [("--help", .help), ("--manifest", .manifest), ("--output-file", .outputFile),
    ("--run-id", .runId), ("--verbose", .verbose)]

/-- What one argument is by itself. -/
inductive Word
  | operand
  /-- A flag, with the value that is part of the argument if there is one. -/
  | flag (flag : Flag) (value : Option String)
  | unknown
  /-- The beginning of several flags. -/
  | ambiguous
  deriving DecidableEq, Repr

/-- A negative number in digits of any script. A line break may follow. -/
def isNegativeNumber : List Char → Bool
  | '-' :: s =>
    let number := if s.getLast? = some '\n' then s.dropLast else s
    match number.dropWhile Text.isDigit with
    | '.' :: fraction => fraction ≠ [] && fraction.all Text.isDigit
    | rest => number ≠ [] && rest = []
  | _ => false

/-- An argument that begins no flag is one that is not known, unless there is
a space in it. -/
def notFlag (arg : List Char) : Word := if arg.contains ' ' then .operand else .unknown

/-- A flag may be cut short, and its value may follow an equals sign. -/
def longWord (arg : List Char) : Word :=
  let name := String.ofList (arg.takeWhile (· ≠ '='))
  let value := match arg.dropWhile (· ≠ '=') with
    | [] => none
    | _ :: value => some (String.ofList value)
  match flagNames.lookup name with
  | some flag => .flag flag value
  | none =>
    match flagNames.filter fun entry => name.toList.isPrefixOf entry.1.toList with
    | [] => notFlag arg
    | [(_, flag)] => .flag flag value
    | _ => .ambiguous

/-- What follows the short form of help, perhaps after an equals sign, is more
of the same, or else a value, which help does not take. -/
def shortHelp (s : List Char) : Word :=
  let more := match s with
    | '=' :: c :: s => c :: s
    | s => s
  .flag .help (if more.all (· = 'h') then none else some (String.ofList s))

def Word.ofText (arg : String) : Word :=
  match arg.toList with
  | '-' :: '-' :: s => longWord ('-' :: '-' :: s)
  | '-' :: 'h' :: s => shortHelp s
  | '-' :: c :: s => if isNegativeNumber ('-' :: c :: s) then .operand else notFlag ('-' :: c :: s)
  | _ => .operand

/-- What has been read of the arguments. It is crowded by those that belong to no flag. -/
structure Draft where
  manifest : Option (Option String) := none
  outputFile : Option String := none
  runId : Option String := none
  verbose : Bool := false
  crowded : Bool := false

namespace Draft

/-- A manifest must be named, and nothing else may be left over. -/
def request (draft : Draft) : Request :=
  match draft.manifest with
  | some manifest =>
    if draft.crowded then .misuse
    else .run ⟨manifest, draft.outputFile, draft.runId, draft.verbose⟩
  | none => .misuse

/-- Gives a flag its value, and none if that is two dashes. A later value replaces
an earlier one. -/
def withValue (draft : Draft) (flag : Flag) (value : String) : Draft :=
  let kept := if value = "--" then none else some value
  match flag with
  | .manifest => { draft with manifest := some kept }
  | .outputFile => { draft with outputFile := kept }
  | .runId => { draft with runId := kept }
  | .help | .verbose => draft

/-- Reads arguments from left to right. Help is given as soon as it is asked for. -/
def read (draft : Draft) : List String → Request
  | [] => draft.request
  | arg :: args =>
    if arg = "--" then .misuse
    else
      match Word.ofText arg with
      | .operand | .unknown => { draft with crowded := true }.read args
      | .ambiguous => .misuse
      | .flag .help none => .help
      | .flag .help (some _) => .misuse
      | .flag .verbose none => { draft with verbose := true }.read args
      | .flag .verbose (some _) => .misuse
      | .flag flag (some value) => (draft.withValue flag value).read args
      | .flag flag none =>
        match args with
        | [] => .misuse
        | value :: args =>
          if value ≠ "--" && Word.ofText value = .operand then
            (draft.withValue flag value).read args
          else .misuse

end Draft

/-- What a list of arguments asks for. No flag may be ambiguous, even one
behind a call for help. -/
def Request.ofArguments (args : List String) : Request :=
  if (args.takeWhile (· ≠ "--")).any (Word.ofText · = .ambiguous) then .misuse
  else ({} : Draft).read args

end HeaderTypes.CommandLine
