import TelemetryExport.IoError
import TelemetryExport.Bytes
import TelemetryExport.Settings.Reading
import TelemetryExport.Toml.Table

/-! # Loading settings

Settings are the content of a file.  `load` insists on the file, `loadOrDefault` takes the
defaults if there is none; a file that is there is never passed over. -/

namespace TelemetryExport
namespace Settings

inductive Error where
  | unreadable (cause : IoError)
  | malformed
  | mismatch (m : Mismatch)
  | problem (p : Problem)
  /-- Names the file whose content is at fault. -/
  | inFile (path : String) (cause : Error)

/-- What went wrong, from the outermost step to the cause. -/
def Error.chain : Error → List String
  | unreadable cause => ["Failed to read config file", cause.message]
  | malformed => ["Failed to parse config", "malformed document"]
  | mismatch m => ["Failed to parse config", m.message]
  | problem p => [p.message]
  | inFile path cause => ("Failed to load " ++ path) :: cause.chain

/-- The numbered causes of a failure, one to a line; a single cause needs no number. -/
def causeLines : List String → List String
  | [cause] => ["    " ++ cause]
  | causes => causes.zipIdx.map fun p => "    " ++ toString p.2 ++ ": " ++ p.1

/-- A report of the failure for a reader who sees nothing else. -/
def Error.report (e : Error) : List String :=
  match e.chain with
  | [] => []
  | [text] => ["Error: " ++ text]
  | text :: causes => ("Error: " ++ text) :: "" :: "Caused by:" :: causeLines causes

def checked (s : Settings) : Except Error Settings :=
  match s.problem? with
  | some p => .error (.problem p)
  | none => .ok s

def parse (text : String) : Except Error Settings :=
  match Toml.parse? text with
  | none => .error .malformed
  | some d =>
    match ofDocument d with
    | .error m => .error (.mismatch m)
    | .ok s => s.checked

/-! ### Files -/

/-- What stands under a path. -/
inductive FileContent where
  | missing
  /-- A directory, or a file that may not be read. -/
  | refused (cause : IoError)
  | bytes (content : Bytes)

/-- The text in a file. -/
def FileContent.text : FileContent → Except IoError String
  | missing => .error .noSuchFile
  | refused cause => .error cause
  | bytes content =>
    match String.fromUTF8? ⟨content.toArray⟩ with
    | some text => .ok text
    | none => .error ⟨.invalidData, "stream did not contain valid UTF-8"⟩

def load (file : FileContent) : Except Error Settings :=
  match file.text with
  | .error e => .error (.unreadable e)
  | .ok text => parse text

def loadOrDefault (path : String) (file : FileContent) : Except Error Settings :=
  match file with
  | .missing => .ok {}
  | _ => (load file).mapError (.inFile path)

end Settings
end TelemetryExport
