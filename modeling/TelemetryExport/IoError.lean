/-! # Input and output errors -/

namespace TelemetryExport

inductive IoErrorKind where
  | connectionRefused
  | connectionReset
  | invalidData
  | invalidInput
  | isADirectory
  | networkUnreachable
  | notFound
  | unexpectedEof
  | writeZero
  | other
deriving DecidableEq, Repr

structure IoError where
  kind : IoErrorKind
  message : String
deriving DecidableEq, Repr

/-- A sink accepted no byte of what it was offered. -/
def IoError.writeZero : IoError := ⟨.writeZero, "write zero"⟩

/-- A stream ended before the bytes that were asked for. -/
def IoError.earlyEof : IoError := ⟨.unexpectedEof, "early eof"⟩

/-- An operating system's error, with its number. -/
def IoError.system (kind : IoErrorKind) (text : String) (code : Nat) : IoError :=
  ⟨kind, text ++ " (os error " ++ toString code ++ ")"⟩

def IoError.noSuchFile : IoError := .system .notFound "No such file or directory" 2

def IoError.isADirectory : IoError := .system .isADirectory "Is a directory" 21

def IoError.networkUnreachable : IoError :=
  .system .networkUnreachable "Network is unreachable" 101

def IoError.connectionReset : IoError :=
  .system .connectionReset "Connection reset by peer" 104

end TelemetryExport
