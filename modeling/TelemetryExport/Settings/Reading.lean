import TelemetryExport.Settings.Basic
import TelemetryExport.Text.Quoted
import TelemetryExport.Toml.Value

/-! # Settings from a document

Each group of settings is a section of the document: a table whose keys are the names of the
settings, or an array of their values in the order in which the group lists them.  What a
section leaves out keeps its default, keys with another name and further items are passed over,
and the first value that is not of its setting's type, in the order of the document, is
reported. -/

namespace TelemetryExport
namespace Settings

open Toml (Value Document)

/-! ### Types -/

/-- What a value must be; natural numbers come in two kinds that differ in name only. -/
inductive Shape where
  | text
  | path
  | integer
  | size
  | duration
  | group (name : String)
deriving DecidableEq, Repr

def Shape.name : Shape → String
  | text => "a string"
  | path => "path string"
  | integer => "i64"
  | size => "usize"
  | duration => "u64"
  | group name => "struct " ++ name

/-- A value that is not what it must be. -/
inductive Mismatch where
  | wrongType (found : Value) (expected : Shape)
  | negative (found : Int) (expected : Shape)
deriving Repr

/-- A float with a point, whether or not it is whole. -/
def floatText (x : Double) : String :=
  let text := x.text
  match x.datum with
  | .finite .. => if text.toList.contains '.' then text else text ++ ".0"
  | _ => text

def describe : Value → String
  | .string text => "string " ++ Text.quoted text
  | .integer i => "integer `" ++ toString i ++ "`"
  | .float x => "floating point `" ++ floatText x ++ "`"
  | .boolean b => "boolean `" ++ toString b ++ "`"
  | .array _ => "sequence"
  | .dateTime _ => "map"
  | .table _ => "map"

def Mismatch.message : Mismatch → String
  | wrongType found expected =>
    "invalid type: " ++ describe found ++ ", expected " ++ expected.name
  | negative found expected =>
    "invalid value: " ++ describe (.integer found) ++ ", expected " ++ expected.name

def asText (shape : Shape) : Value → Except Mismatch String
  | .string text => .ok text
  | v => .error (.wrongType v shape)

def asInteger : Value → Except Mismatch Int
  | .integer i => .ok i
  | v => .error (.wrongType v .integer)

def asNatural (shape : Shape) : Value → Except Mismatch Nat
  | .integer i => if i < 0 then .error (.negative i shape) else .ok i.toNat
  | v => .error (.wrongType v shape)

/-! ### Sections -/

/-- A named value in a group `σ`: how it is read, and where it goes. -/
structure Entry (σ : Type) where
  name : String
  read : Value → Except Mismatch (σ → σ)

def Entry.of {σ α : Type} (name : String) (read : Value → Except Mismatch α)
    (set : α → σ → σ) : Entry σ := ⟨name, fun v => set <$> read v⟩

def fill {σ : Type} (entries : List (Entry σ)) : σ → Document → Except Mismatch σ
  | s, [] => .ok s
  | s, (key, v) :: rest =>
    match entries.find? (·.name == key) with
    | none => fill entries s rest
    | some e => do fill entries ((← e.read v) s) rest

def fillInOrder {σ : Type} : List (Entry σ) → σ → List Value → Except Mismatch σ
  | e :: entries, s, v :: rest => do fillInOrder entries ((← e.read v) s) rest
  | _, s, _ => .ok s

/-- A group of settings, read over its defaults `s`.  A date or time has none of the keys. -/
def readSection {σ : Type} (name : String) (entries : List (Entry σ)) (s : σ) :
    Value → Except Mismatch σ
  | .table d => fill entries s d
  | .array items => fillInOrder entries s items
  | .dateTime _ => .ok s
  | v => .error (.wrongType v (.group name))

def serverEntries : List (Entry ServerSettings) :=
  [.of "bind" (asText .text) fun v s => { s with bind := v },
    .of "max_connections" (asNatural .size) fun v s => { s with maxConnections := v },
    .of "read_timeout_secs" (asNatural .duration) fun v s => { s with readTimeoutSecs := v }]

def storeEntries : List (Entry StoreSettings) :=
  [.of "path" (asText .path) fun v s => { s with path := v },
    .of "busy_timeout_ms" (asNatural .duration) fun v s => { s with busyTimeoutMs := v },
    .of "retry_times" (asNatural .size) fun v s => { s with retryTimes := v },
    .of "retry_delay_ms" (asNatural .duration) fun v s => { s with retryDelayMs := v }]

def exportEntries : List (Entry ExportSettings) :=
  [.of "default_device_id" asInteger fun v s => { s with defaultDeviceId := v },
    .of "record_count" (asNatural .size) fun v s => { s with recordCount := v }]

def logEntries : List (Entry LogSettings) :=
  [.of "level" (asText .text) fun v s => { s with level := v }]

def sections : List (Entry Settings) :=
  [.of "server" (readSection "ServerConfig" serverEntries {}) fun v s => { s with server := v },
    .of "database" (readSection "DatabaseConfig" storeEntries {}) fun v s => { s with store := v },
    .of "export" (readSection "ExportConfig" exportEntries {})
      fun v s => { s with exporting := v },
    .of "logging" (readSection "LoggingConfig" logEntries {}) fun v s => { s with log := v }]

def ofDocument (d : Document) : Except Mismatch Settings := fill sections {} d

end Settings
end TelemetryExport
