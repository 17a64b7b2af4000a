namespace HeaderTypes.Log

/-- How much a record matters, as a number. -/
structure Level where
  number : Int
  deriving DecidableEq, Repr

namespace Level

def debug : Level := ⟨10⟩
def info : Level := ⟨20⟩
def warning : Level := ⟨30⟩
def error : Level := ⟨40⟩
def critical : Level := ⟨50⟩

/-- Some levels are told by names of their own. -/
def name (level : Level) : String :=
  match level.number with
  | 0 => "NOTSET"
  | 10 => "DEBUG"
  | 20 => "INFO"
  | 30 => "WARNING"
  | 40 => "ERROR"
  | 50 => "CRITICAL"
  | number => s!"Level {number}"

end Level

/-- A message with its level and the part of the program that it is about. -/
structure Record where
  level : Level
  logger : String
  message : String
  deriving DecidableEq, Repr

/-- What no part of the program is named for is about the root of all parts. -/
def Record.source (record : Record) : String :=
  if record.logger = "" then "root" else record.logger

end HeaderTypes.Log
