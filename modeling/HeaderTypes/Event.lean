import HeaderTypes.Failure
import HeaderTypes.Log.Level

namespace HeaderTypes

/-- What has been counted over the headers of a scan. -/
structure Stats where
  headersScanned : Nat := 0
  structsRegistered : Nat := 0
  structsCompatible : Nat := 0
  structsSkipped : Nat := 0
  signaturesRegistered : Nat := 0
  syntaxErrors : Nat := 0
  deriving DecidableEq, Repr

/-- The counters on one line. -/
def Stats.render (s : Stats) : String :=
  s!"ScanStats(headers={s.headersScanned}, structs={s.structsRegistered}, " ++
    s!"compatible={s.structsCompatible}, skipped={s.structsSkipped}, " ++
    s!"signatures={s.signaturesRegistered}, syntax_errors={s.syntaxErrors})"

/-- What an operation on the type graph tells of while it works. -/
inductive Event
  | registered (kind name : String) (compatible : Bool)
  | primitiveKept (name : String)
  | primitivesSeeded (count : Nat)
  | forwardSkipped (line : Nat)
  | blockFound (name : String) (line : Nat)
  | pointerRead (struct field : String) (arguments : List String) (returns : Option String)
  | fieldRead (struct field type : String)
  | structClassified (name : String) (fields : Nat) (compatible : Bool)
  | structSkipped (name origin : String) (line : Nat)
  | scanFailed (origin : String) (cause : Failure)
  | headerScanned (origin : String) (structs : Nat)
  | grammarReady
  | textParsed (bytes : Nat)
  | syntaxErrorsFound (path : String) (count : Nat)
  | modelExported (structs compatible : Nat)
  | scanCompleted (stats : Stats)
  deriving DecidableEq, Repr

namespace Event

/-- A truth value as it is written in messages. -/
def truth (b : Bool) : String := if b then "True" else "False"

/-- Details are told at the lowest level, results above them, failures on top. -/
def level : Event → Log.Level
  | registered .. | primitiveKept .. | forwardSkipped .. | blockFound .. | pointerRead ..
  | fieldRead .. | structClassified .. | grammarReady | textParsed .. => .debug
  | primitivesSeeded .. | structSkipped .. | headerScanned .. | modelExported ..
  | scanCompleted .. => .info
  | syntaxErrorsFound .. => .warning
  | scanFailed .. => .error

/-- The part of the program that tells of an event. -/
def logger : Event → String
  | registered .. => "typegraph.registry"
  | primitiveKept .. | primitivesSeeded .. => "typegraph.seeder"
  | forwardSkipped .. | blockFound .. => "typegraph.blocks"
  | pointerRead .. | fieldRead .. => "typegraph.fields"
  | structClassified .. => "typegraph.classifier"
  | structSkipped .. | scanFailed .. | headerScanned .. | syntaxErrorsFound ..
  | scanCompleted .. => "typegraph.scanner"
  | grammarReady | textParsed .. => "typegraph.parser"
  | modelExported .. => "typegraph.exporter"

def message : Event → String
  | registered kind name compatible => s!"Registered {kind} {name} (compatible={truth compatible})"
  | primitiveKept name => s!"Primitive {name} already registered; keeping existing entry"
  | primitivesSeeded count => s!"Seeded {count} primitive types"
  | forwardSkipped line => s!"Skipping struct forward declaration at line {line}"
  | blockFound name line => s!"Found struct block {name} at line {line}"
  | pointerRead struct field arguments returns =>
    s!"{struct}.{field}: (" ++ ", ".intercalate arguments ++ ") -> " ++ returns.getD "None"
  | fieldRead struct field type => s!"{struct}.{field}: {type}"
  | structClassified name fields compatible =>
    s!"Classified struct {name}: {fields} fields, compatible={truth compatible}"
  | structSkipped name origin line => s!"Skipping {name} ({origin}:{line}): already defined"
  | scanFailed origin cause => s!"Error scanning {origin}: " ++ cause.message
  | headerScanned origin structs => s!"Scanned {origin}: {structs} structs registered"
  | grammarReady => "Created tree-sitter C++ parser"
  | textParsed bytes => s!"Parsed {bytes} bytes of header text"
  | syntaxErrorsFound path count =>
    s!"Header {path} contains syntax errors ({count} error nodes)"
  | modelExported structs compatible => s!"Exported {structs} structs ({compatible} compatible)"
  | scanCompleted stats => "Scan complete: " ++ stats.render

/-- The log record of an event. -/
def record (e : Event) : Log.Record := ⟨e.level, e.logger, e.message⟩

end Event

end HeaderTypes
