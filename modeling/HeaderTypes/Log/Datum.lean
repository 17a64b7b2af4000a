import HeaderTypes.Log.Context
import HeaderTypes.Log.Level

namespace HeaderTypes.Log
open Document (Value Part)

/-- What a record tells under a name. -/
inductive Datum
  | text (value : String)
  | whole (value : Int)
  | truth (value : Bool)
  | real (value : Float)
  | nothing
  /-- A value with parts, by the word for its type and written out. -/
  | parts (type : String) (shown : List Char)

namespace Datum

/-- What a value of a document tells. -/
def ofValue : Value → Datum
  | .null => nothing
  | .bool value => truth value
  | .int value => whole value
  | .float value => real value
  | .scalar (.text value) => text value.text
  | value => parts value.typeName ((((Part.ofValue value).text?).getD "").text.toList)

/-- The word for the type of a datum. -/
def typeName : Datum → String
  | text _ => "str"
  | whole _ => "int"
  | truth _ => "bool"
  | real _ => "float"
  | nothing => "NoneType"
  | parts type _ => type

/-- A datum by itself. -/
def shown : Datum → List Char
  | text value => value.toList
  | whole value => (toString value).toList
  | truth value => (if value then "True" else "False").toList
  | real value => (Decimal.render Decimal.plainStyle value).toList
  | nothing => "None".toList
  | parts _ shown => shown

/-- A datum in quotes if it is a text. -/
def quoted : Datum → List Char
  | text value => Text.quote value.toList
  | datum => datum.shown

/-- A whole number. Truth values count as numbers. -/
def whole? : Datum → Option Int
  | whole value => some value
  | truth value => some (if value then 1 else 0)
  | _ => none

end Datum

/-- Where and when a record was made: a file and the line and function in it,
the process and thread that did it, and the time since 1970 and since the
start, both in milliseconds. -/
structure Origin where
  file : String := ""
  line : Nat := 0
  function : String := ""
  process : Nat := 0
  thread : Nat := 0
  sinceEpoch : Nat := 0
  sinceStart : Nat := 0
  deriving DecidableEq, Repr

/-- A record at a time and in a context. -/
structure Stamped where
  record : Record
  context : Context
  time : String
  origin : Origin := {}

namespace Origin

/-- The last name of the file. -/
def fileName (origin : Origin) : List Char :=
  (origin.file.toList.reverse.takeWhile (· ≠ '/')).reverse

/-- The last name of the file without what follows its last point. -/
def stem (origin : Origin) : List Char :=
  let before := (origin.fileName.reverse.dropWhile (· ≠ '.')).drop 1
  if before.all (· = '.') then origin.fileName else before.reverse

end Origin

namespace Stamped

/-- What marks a record with its context. -/
def marks (stamped : Stamped) : List (String × Datum) :=
  [("run_id", .ofValue stamped.context.runId), ("phase", .ofValue stamped.context.phase),
    ("header", .ofValue stamped.context.header)]

/-- All that a record tells, by name. It is marked with its context or not, and
its time is told where a layout asks for it. -/
def data (stamped : Stamped) (marked timed : Bool) : List (String × Datum) :=
  let record := stamped.record
  let origin := stamped.origin
  let inSeconds (milliseconds : Nat) : Datum := .real (Float.ofNat milliseconds / 1000.0)
  let inMilliseconds (milliseconds : Nat) : Datum := .real (Float.ofNat milliseconds)
  [("name", .text record.source), ("msg", .text record.message),
    ("args", .parts "tuple" "()".toList), ("levelname", .text record.level.name),
    ("levelno", .whole record.level.number), ("pathname", .text origin.file),
    ("filename", .text (String.ofList origin.fileName)),
    ("module", .text (String.ofList origin.stem)), ("exc_info", .nothing),
    ("exc_text", .nothing), ("stack_info", .nothing), ("lineno", .whole origin.line),
    ("funcName", .text origin.function), ("created", inSeconds origin.sinceEpoch),
    ("msecs", inMilliseconds (origin.sinceEpoch % 1000)),
    ("relativeCreated", inMilliseconds origin.sinceStart), ("thread", .whole origin.thread),
    ("threadName", .text "MainThread"), ("processName", .text "MainProcess"),
    ("process", .whole origin.process)] ++ (if marked then stamped.marks else []) ++
    [("message", .text record.message)] ++
    (if timed then [("asctime", .text stamped.time)] else [])

/-- Data in curly brackets, each after its name. -/
def written (data : List (String × Datum)) : List Char :=
  let entries := data.map fun (name, datum) => Text.quote name.toList ++ ':' :: ' ' :: datum.quoted
  '\x7b' :: (", ".toList).intercalate entries ++ ['\x7d']

end Stamped

end HeaderTypes.Log
