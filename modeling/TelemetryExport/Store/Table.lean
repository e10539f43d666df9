import TelemetryExport.Record
import TelemetryExport.Store.Cell

/-! # The table of readings

Every row has a number of its own, a signed 64-bit integer, and five cells.  The table exists in
three shapes: the one this library creates, whose columns are all required; the one the ingestion
side creates, with device ids as text and times as either text or numbers; and one whose columns
have no declared type at all.

Numbers are given out in one of two ways (`Numbering`).  A table that keeps a sequence never gives
one out twice, and takes no more rows after the greatest number of all.  Any other table goes on
from the greatest number in use, and from there on draws numbers at random until it finds one that
is not in use. -/

namespace TelemetryExport
namespace Store

inductive Column where
  | deviceId
  | temperature
  | humidity
  | waterLevel
  | timestamp
deriving DecidableEq, Repr

namespace Column

def all : List Column := [deviceId, temperature, humidity, waterLevel, timestamp]

def name : Column → String
  | deviceId => "device_id"
  | temperature => "temperature"
  | humidity => "humidity"
  | waterLevel => "water_level"
  | timestamp => "timestamp"

/-- The column's place in a row, counted from zero. -/
def index : Column → Nat
  | deviceId => 0
  | temperature => 1
  | humidity => 2
  | waterLevel => 3
  | timestamp => 4

end Column

inductive Schema where
  | own
  | ingestion
  | untyped
deriving DecidableEq, Repr

namespace Schema

def affinity : Schema → Column → Affinity
  | own, .deviceId => .integer
  | own, .timestamp => .integer
  | own, _ => .real
  | ingestion, .deviceId => .text
  | ingestion, .timestamp => .numeric
  | ingestion, _ => .real
  | untyped, _ => .none

/-- Null is refused in every column. -/
def required : Schema → Bool
  | own => true
  | _ => false

end Schema

structure Cells where
  deviceId : Cell
  temperature : Cell
  humidity : Cell
  waterLevel : Cell
  timestamp : Cell
deriving DecidableEq, Repr

namespace Cells

def cell (c : Cells) : Column → Cell
  | .deviceId => c.deviceId
  | .temperature => c.temperature
  | .humidity => c.humidity
  | .waterLevel => c.waterLevel
  | .timestamp => c.timestamp

/-- The cells of a record; a measurement that is not a number becomes null. -/
def ofRecord (r : Record) : Cells where
  deviceId := .integer r.deviceId
  temperature := .ofDouble r.reading.temperature.toDouble
  humidity := .ofDouble r.reading.humidity.toDouble
  waterLevel := .ofDouble r.reading.waterLevel.toDouble
  timestamp := .integer r.timestamp

def convert (s : Schema) (c : Cells) : Cells where
  deviceId := (s.affinity .deviceId).convert c.deviceId
  temperature := (s.affinity .temperature).convert c.temperature
  humidity := (s.affinity .humidity).convert c.humidity
  waterLevel := (s.affinity .waterLevel).convert c.waterLevel
  timestamp := (s.affinity .timestamp).convert c.timestamp

/-- The first column that is null. -/
def missing? (c : Cells) : Option Column := Column.all.find? fun col => c.cell col == .null

end Cells

structure Row where
  id : Int
  cells : Cells
deriving DecidableEq, Repr

/-! ### Numbers -/

/-- The number after the greatest of those in use. -/
def following (used : List Int) : Int :=
  match used.max? with
  | some id => id + 1
  | none => 1

/-- A random word as a number, in the lower half of the positive ones. -/
def drawn (word : UInt64) : Int := (word.toNat % 4611686018427387904 : Nat) + 1

/-- The first drawn number that is not in use, and the words that are left, if it takes no more
than `tries`. -/
def draw? (used : List Int) : (tries : Nat) → List UInt64 → Option (Int × List UInt64)
  | 0, _ => none
  | _, [] => none
  | tries + 1, word :: words =>
    if drawn word ∈ used then draw? used tries words else some (drawn word, words)

/-- How often a number is drawn for one row. -/
def maxDraws : Nat := 100

/-- Where the number of the next row comes from. -/
inductive Numbering where
  /-- It is greater than the last one given out. -/
  | sequence (last : Int)
  /-- It is greater than those in use, or else drawn: `words` are the random words to come. -/
  | vacancy (words : List UInt64)
deriving DecidableEq, Repr

namespace Numbering

def isSequence : Numbering → Bool
  | sequence _ => true
  | vacancy _ => false

/-- The next number, if there is one, and the numbering after it. -/
def next? (used : List Int) : Numbering → Option (Int × Numbering)
  | sequence last =>
    let id := max (last + 1) (following used)
    if id ≤ maxInt64 then some (id, sequence id) else none
  | vacancy words =>
    if following used ≤ maxInt64 then some (following used, vacancy words)
    else (draw? used maxDraws words).map fun p => (p.1, vacancy p.2)

end Numbering

/-! ### Tables -/

/-- Rows in the order in which they were added, and whether the index that serves the queries
exists. -/
structure Table where
  schema : Schema
  rows : List Row
  numbering : Numbering
  indexed : Bool
deriving DecidableEq, Repr

/-- Why a row is not added. -/
inductive Refusal where
  /-- There is no number for it. -/
  | full
  /-- A required column is null. -/
  | missing (column : Column)
deriving DecidableEq, Repr

namespace Table

def empty (schema : Schema) (indexed : Bool) : Table := ⟨schema, [], .sequence 0, indexed⟩

/-- The numbers in use. -/
def used (t : Table) : List Int := t.rows.map (·.id)

/-- Adds a row, unless there is no number for it or a required column has no value, of which the
first is named. -/
def insert (t : Table) (c : Cells) : Except Refusal Table :=
  match t.numbering.next? t.used with
  | none => .error .full
  | some (id, numbering) =>
    match t.schema.required, c.missing? with
    | true, some column => .error (.missing column)
    | _, _ => .ok { t with rows := t.rows ++ [⟨id, c.convert t.schema⟩], numbering }

def delete (t : Table) (id : Int) : Table := { t with rows := t.rows.filter (·.id != id) }

end Table
end Store
end TelemetryExport
