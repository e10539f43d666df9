import TelemetryExport.Decimal.Shortest

/-! # Reading digits

The pieces that every written number shares: a sign, digits as a natural number, a number of a
fixed width between two bounds, and `Double.nearestTo`, the binary64 number nearest to a
decimal.  Only the ten ASCII digits count. -/

namespace TelemetryExport

def digitValue (c : Char) : Nat := c.toNat - '0'.toNat

def naturalOfDigits (ds : List Char) : Nat := ds.foldl (fun n c => 10 * n + digitValue c) 0

/-- A minus or plus sign at the beginning, and the rest. -/
def takeSign : List Char → Bool × List Char
  | '-' :: cs => (true, cs)
  | '+' :: cs => (false, cs)
  | cs => (false, cs)

/-- A number of exactly `width` digits between `low` and `high`, and the rest. -/
def fixedNumber? (width low high : Nat) (cs : List Char) : Option (Nat × List Char) :=
  let ds := cs.take width
  let n := naturalOfDigits ds
  if ds.length = width ∧ ds.all Char.isDigit ∧ low ≤ n ∧ n ≤ high then some (n, cs.drop width)
  else none

/-- The rest after the character `c`. -/
def expect? (c : Char) : List Char → Option (List Char)
  | d :: cs => if d = c then some cs else none
  | [] => none

namespace Double

/-- A positive decimal below `10 ^ -leastMagnitude` is nearest to zero. -/
def leastMagnitude : Int := 400

/-- A decimal from `10 ^ greatestMagnitude` on is beyond all finite numbers. -/
def greatestMagnitude : Int := 400

def nearestTo (negative : Bool) (d : Decimal) : Double :=
  let magnitude := d.exponent + digitCount d.digits
  if d.digits = 0 ∨ magnitude < -leastMagnitude then .ofQuotient negative 0 1
  else if greatestMagnitude < magnitude then .ofDatum (.infinite negative)
  else .ofQuotient negative (d.digits * raise 10 d.exponent) (raise 10 (-d.exponent))

end Double
end TelemetryExport
