import TelemetryExport.Command
import TelemetryExport.Store.Error
import TelemetryExport.Store.Instant

/-! # Answering a query

The two kinds of writers store the same facts differently, so a row is first normalised: its
device id is cast to an integer, and its time is read as an instant when it is text (text that
is no instant counts as the epoch) and cast to an integer otherwise.  A null stays null.  The
clock, which some texts are read from, is looked at once for a whole answer.

An answer holds the rows of one device, newest first, rows of one time in the opposite order of
their numbers, and rows without a time last.  Only the rows that are part of the answer are
turned into records, so a cell that cannot be read makes a query fail exactly when its row is
part of the answer. -/

namespace TelemetryExport
namespace Store

/-- A row as the queries see it. -/
structure Sample where
  id : Int
  deviceId : Option Int
  temperature : Cell
  humidity : Cell
  waterLevel : Cell
  timestamp : Option Int
deriving DecidableEq, Repr

def normalTime? (now : Clock) : Cell → Option Int
  | .text s => some ((instant? now s).getD 0)
  | c => c.toInteger?

def Row.normalise (now : Clock) (r : Row) : Sample where
  id := r.id
  deviceId := r.cells.deviceId.toInteger?
  temperature := r.cells.temperature
  humidity := r.cells.humidity
  waterLevel := r.cells.waterLevel
  timestamp := normalTime? now r.cells.timestamp

namespace Sample

/-- The order of an answer: `a` stands before `b`, or they are the same row. -/
def newer (a b : Sample) : Bool :=
  match a.timestamp, b.timestamp with
  | some s, some t => if s = t then b.id ≤ a.id else t < s
  | some _, none => true
  | none, some _ => false
  | none, none => b.id ≤ a.id

def within (first last : Int) (a : Sample) : Bool :=
  match a.timestamp with
  | some t => first ≤ t && t ≤ last
  | none => false

def measurement (column : Column) (c : Cell) : Except Error Single :=
  c.toSingle.mapError (.unreadable column)

/-- The columns are read from left to right. -/
def toRecord (deviceId : Int) (a : Sample) : Except Error Record := do
  let temperature ← measurement .temperature a.temperature
  let humidity ← measurement .humidity a.humidity
  let waterLevel ← measurement .waterLevel a.waterLevel
  match a.timestamp with
  | some timestamp => return ⟨deviceId, ⟨temperature, humidity, waterLevel⟩, timestamp⟩
  | none => throw (.unreadable .timestamp .null)

end Sample

namespace Table

/-- All rows of a device, newest first. -/
def history (t : Table) (now : Clock) (deviceId : Int) : List Sample :=
  ((t.rows.map (Row.normalise now)).filter (·.deviceId == some deviceId)).mergeSort Sample.newer

/-- The largest number of rows that can be asked for. -/
def maxCount : Nat := 9223372036854775807

/-- The rows that make up the answer. -/
def selected (t : Table) (now : Clock) : Query → List Sample
  | .lastN deviceId count => (t.history now deviceId).take (min count maxCount)
  | .range deviceId first last => (t.history now deviceId).filter (Sample.within first last)

end Table

def Table.answer (t : Table) (now : Clock) (q : Query) : Except Error (List Record) :=
  (t.selected now q).mapM (Sample.toRecord q.deviceId)

end Store
end TelemetryExport
