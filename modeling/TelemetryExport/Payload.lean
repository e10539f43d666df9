import TelemetryExport.Bytes
import TelemetryExport.Record
import TelemetryExport.Decimal.Shortest

/-! # Payloads

A payload is a record count, written as a binary64 number, followed by twelve bytes for each
record: its three measurements as binary32 numbers.  Every number is written lowest byte first.

`encode` refuses a measurement that is not finite and names the first one; nothing is produced
unless every record can be written.  `decode` accepts a payload exactly when its count is a whole
number, not below zero and numerically equal to the number of twelve-byte groups that follow it,
and no byte is left over. -/

namespace TelemetryExport
namespace Payload

inductive Error where
  /-- The measurement `field` of the record at `index` is infinite or not a number. -/
  | nonFinite (index : Nat) (field : Field)
  | tooManyRecords (count : Nat)
  /-- The payload ends before its record count does. -/
  | truncated (length : Nat)
  /-- The record count disagrees with the payload's length. -/
  | malformed (count : Double) (length : Nat)
deriving DecidableEq, Repr

def Error.message : Error → String
  | nonFinite index field => "Record " ++ toString index ++ " has a non-finite " ++ field.name
  | tooManyRecords count =>
    "Record count " ++ toString count ++ " can't be carried exactly by a 64-bit double"
  | truncated length =>
    "Payload is " ++ toString length ++ " bytes, too short for a record count"
  | malformed count length =>
    "Record count " ++ count.text ++ " doesn't match a " ++ toString length ++ " byte payload"

def countLength : Nat := 8

def recordLength : Nat := 12

/-- The largest count up to which every natural number is a binary64 number. -/
def maxExactCount : Nat := 9007199254740992

/-! ### Writing -/

def singleBytes (x : Single) : Bytes := littleEndian 4 x.bits.toNat

def readingBytes (r : Reading) : Bytes :=
  singleBytes r.temperature ++ singleBytes r.humidity ++ singleBytes r.waterLevel

def countBytes (n : Nat) : Bytes := littleEndian countLength (Double.ofNat n).bits.toNat

/-- The first measurement that cannot be written, with the index of its record, counted from
`index`. -/
def firstNonFinite? (index : Nat) : List Reading → Option (Nat × Field)
  | [] => none
  | r :: rest =>
    match r.nonFinite? with
    | some field => some (index, field)
    | none => firstNonFinite? (index + 1) rest

def encodeReadings (readings : List Reading) : Except Error Bytes :=
  if maxExactCount < readings.length then .error (.tooManyRecords readings.length)
  else
    match firstNonFinite? 0 readings with
    | some (index, field) => .error (.nonFinite index field)
    | none => .ok (countBytes readings.length ++ readings.flatMap readingBytes)

def encode (records : List Record) : Except Error Bytes :=
  encodeReadings (records.map (·.reading))

/-! ### Reading -/

def singleOfBytes (bytes : Bytes) : Single := ⟨UInt32.ofNat (ofLittleEndian bytes)⟩

def readingOfBytes (bytes : Bytes) : Reading where
  temperature := singleOfBytes (bytes.take 4)
  humidity := singleOfBytes ((bytes.drop 4).take 4)
  waterLevel := singleOfBytes ((bytes.drop 8).take 4)

/-- The first `count` groups of twelve bytes. -/
def readingsOfBytes : (count : Nat) → Bytes → List Reading
  | 0, _ => []
  | count + 1, bytes =>
    readingOfBytes (bytes.take recordLength) ::
      readingsOfBytes count (bytes.drop recordLength)

def decode (payload : Bytes) : Except Error (List Reading) :=
  let length := payload.length
  if length < countLength then .error (.truncated length)
  else
    let count : Double := ⟨UInt64.ofNat (ofLittleEndian (payload.take countLength))⟩
    let body := payload.drop countLength
    let expected := body.length / recordLength
    if count.hasFraction ∨ count.isBelowZero ∨ !count.equals (.ofNat expected) ∨
        body.length % recordLength ≠ 0 then
      .error (.malformed count length)
    else .ok (readingsOfBytes expected body)

end Payload
end TelemetryExport
