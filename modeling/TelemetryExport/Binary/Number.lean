import TelemetryExport.Binary.Format

/-! # Single and double precision numbers

`Single` is a measurement, `Double` a record count or a stored real.  Both keep the pattern
itself, so that a payload of a not-a-number and the sign of a zero survive every passage that
does no arithmetic.  Conversions between the widths and from integers round to nearest even;
`Double.saturated` truncates toward zero into the range of 64-bit integers. -/

namespace TelemetryExport

/-- A binary32 pattern. -/
structure Single where
  bits : UInt32
deriving DecidableEq, Repr, Inhabited

/-- A binary64 pattern. -/
structure Double where
  bits : UInt64
deriving DecidableEq, Repr, Inhabited

/-- The least signed 64-bit integer. -/
def minInt64 : Int := -9223372036854775808

/-- The greatest signed 64-bit integer. -/
def maxInt64 : Int := 9223372036854775807

/-- The integer moved to the nearest end of the signed 64-bit range when outside it. -/
def saturate (i : Int) : Int := max minInt64 (min maxInt64 i)

/-- The integer, if it fits 64 bits. -/
def int64? (i : Int) : Option Int := if minInt64 ≤ i ∧ i ≤ maxInt64 then some i else none

namespace Single

def datum (x : Single) : Datum := BinaryFormat.single.datum x.bits.toNat

def ofDatum (d : Datum) : Single := ⟨UInt32.ofNat (BinaryFormat.single.pattern d)⟩

def ofInt (i : Int) : Single := ofDatum (Datum.ofInt i)

def isFinite (x : Single) : Bool := x.bits &&& 0x7f800000 != 0x7f800000

def isNaN (x : Single) : Bool := x.datum == .nan

def add (x y : Single) : Single := ofDatum (x.datum.add y.datum)

def sub (x y : Single) : Single := ofDatum (x.datum.add y.datum.neg)

def mul (x y : Single) : Single := ofDatum (x.datum.mul y.datum)

/-- Orders numbers by their patterns: sign and magnitude. -/
def rank (x : Single) : Int :=
  Datum.withSign (decide (0x80000000 ≤ x.bits)) (x.bits.toNat % 0x80000000)

def min (x y : Single) : Single := if y.rank < x.rank then y else x

end Single

namespace Double

def datum (x : Double) : Datum := BinaryFormat.double.datum x.bits.toNat

def ofDatum (d : Datum) : Double := ⟨UInt64.ofNat (BinaryFormat.double.pattern d)⟩

def ofInt (i : Int) : Double := ofDatum (Datum.ofInt i)

def ofNat (n : Nat) : Double := ofInt n

/-- The number nearest to `± num / den`. -/
def ofQuotient (negative : Bool) (num den : Nat) : Double :=
  ⟨UInt64.ofNat (BinaryFormat.double.signed negative (BinaryFormat.double.nearest num den))⟩

def isNaN (x : Double) : Bool := x.datum == .nan

def isZero (x : Double) : Bool := x.bits <<< 1 == 0

/-- Numerical equality: the two zeros are equal and nothing equals a not-a-number. -/
def equals (x y : Double) : Bool :=
  !x.isNaN && !y.isNaN && (x.bits == y.bits || (x.isZero && y.isZero))

/-- Something stands behind the point.  Of what is not finite the fraction is no number, and
differs from zero too. -/
def hasFraction (x : Double) : Bool :=
  match x.datum with
  | .finite _ m e => m * raise 2 e % raise 2 (-e) != 0
  | _ => true

def isBelowZero (x : Double) : Bool :=
  match x.datum with
  | .finite s m _ => s && m != 0
  | .infinite s => s
  | .nan => false

def add (x y : Double) : Double := ofDatum (x.datum.add y.datum)

def mul (x y : Double) : Double := ofDatum (x.datum.mul y.datum)

/-- The whole part toward zero, moved into the signed 64-bit range. -/
def saturated (x : Double) : Int :=
  match x.datum with
  | .nan => 0
  | .infinite s => if s then minInt64 else maxInt64
  | d => saturate (d.truncate?.getD 0)

end Double

def Single.toDouble (x : Single) : Double := .ofDatum x.datum

def Double.toSingle (x : Double) : Single := .ofDatum x.datum

end TelemetryExport
