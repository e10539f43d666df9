/-! # Log lines

Every line has a level; a `Verbosity` says which levels are written. -/

namespace TelemetryExport

inductive Level where
  | error
  | warn
  | info
  | debug
deriving DecidableEq, Repr

namespace Level

def name : Level → String
  | error => "ERROR"
  | warn => "WARN"
  | info => "INFO"
  | debug => "DEBUG"

/-- Greater for what matters less. -/
def rank : Level → Nat
  | error => 1
  | warn => 2
  | info => 3
  | debug => 4

end Level

structure LogLine where
  level : Level
  text : String
deriving DecidableEq, Repr

def LogLine.render (line : LogLine) : String := line.level.name ++ " " ++ line.text

inductive Verbosity where
  | off
  | error
  | warn
  | info
  | debug
  | trace
deriving DecidableEq, Repr

namespace Verbosity

def all : List Verbosity := [off, error, warn, info, debug, trace]

def name : Verbosity → String
  | off => "OFF"
  | error => "ERROR"
  | warn => "WARN"
  | info => "INFO"
  | debug => "DEBUG"
  | trace => "TRACE"

/-- The rank of the last level that is written. -/
def rank : Verbosity → Nat
  | off => 0
  | error => 1
  | warn => 2
  | info => 3
  | debug => 4
  | trace => 5

/-- Reads a name without regard to the case of its ASCII letters. -/
def ofName? (text : String) : Option Verbosity :=
  all.find? fun v => v.name.toList == text.toList.map Char.toUpper

def admits (v : Verbosity) (level : Level) : Bool := level.rank ≤ v.rank

end Verbosity
end TelemetryExport
