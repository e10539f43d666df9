import TelemetryExport.Bytes
import TelemetryExport.Decimal.Places
import TelemetryExport.Store.Numeral

/-! # Cells

A cell of the store holds a value of one of five classes, whatever its column was declared for.
A declaration only gives the column an affinity: the class into which a value is turned, where
that loses nothing, when it is stored.  `Affinity.convert` is that conversion as a reader sees
it afterwards, `Cell.toInteger?` the cast to an integer that every class but null allows, and
`Cell.toSingle` the reading of a measurement, which only numbers allow. -/

namespace TelemetryExport
namespace Store

inductive StorageClass where
  | null
  | integer
  | real
  | text
  | blob
deriving DecidableEq, Repr

def StorageClass.name : StorageClass → String
  | null => "Null"
  | integer => "Integer"
  | real => "Real"
  | text => "Text"
  | blob => "Blob"

inductive Cell where
  | null
  | integer (value : Int)
  | real (value : Double)
  | text (value : String)
  | blob (bytes : Bytes)
deriving DecidableEq, Repr, Inhabited

namespace Cell

def storageClass : Cell → StorageClass
  | null => .null
  | integer _ => .integer
  | real _ => .real
  | text _ => .text
  | blob _ => .blob

/-- A real as it is handed to the store, which has no not-a-number. -/
def ofDouble (x : Double) : Cell := if x.isNaN then null else real x

def blobText (bytes : Bytes) : List Char := bytes.map fun b => Char.ofNat b.toNat

/-- The cast to an integer: reals are truncated, texts and blobs read from the beginning. -/
def toInteger? : Cell → Option Int
  | null => none
  | integer i => some i
  | real x => some x.saturated
  | text s => some (leadingInteger s.toList)
  | blob bytes => some (leadingInteger (blobText bytes))

/-- The measurement in a cell, or the class that is none. -/
def toSingle : Cell → Except StorageClass Single
  | integer i => .ok (.ofInt i)
  | real x => .ok x.toSingle
  | c => .error c.storageClass

end Cell

/-! ### Affinity -/

inductive Affinity where
  | integer
  | real
  | numeric
  | text
  | none
deriving DecidableEq, Repr

/-- The integer a real is equal to, the two ends of the 64-bit range left out. -/
def exactInteger? (x : Double) : Option Int :=
  let i := x.saturated
  if minInt64 < i ∧ i < maxInt64 ∧ x.equals (.ofInt i) then some i else none

/-- A real as an integer where it is one. -/
def preferInteger (x : Double) : Cell :=
  match exactInteger? x with
  | some i => .integer i
  | none => .real x

/-- A text that is a number as that number; an integer in range stays exact. -/
def numericText (s : String) : Cell :=
  match numeral? s.toList with
  | none => .text s
  | some n =>
    let i := unboundedInteger s.toList
    if n.integral ∧ minInt64 ≤ i ∧ i ≤ maxInt64 then .integer i else preferInteger n.toDouble

def toNumber : Cell → Cell
  | .real x => preferInteger x
  | .text s => numericText s
  | c => c

/-- Integers as reals. -/
def asReal : Cell → Cell
  | .integer i => .real (.ofInt i)
  | c => c

/-- A stored value as it reads back from a column of the affinity. -/
def Affinity.convert : Affinity → Cell → Cell
  | .integer, c => toNumber c
  | .numeric, c => toNumber c
  | .real, c => asReal (toNumber c)
  | .text, .integer i => .text (toString i)
  | .text, .real x => .text x.significant
  | .text, c => c
  | .none, c => c

end Store
end TelemetryExport
