import TelemetryExport.Binary.Number

/-! # The shortest decimal that reads back

`shortest` gives the decimal with the fewest digits among those that round to a given finite
value, and of these the one nearest to the value; an exact tie goes to the larger.  The search
goes through the grids of one digit, two digits and so on: if a grid has a point inside the
interval of reals that round to the value, then one of the two points around the value lies
inside, so only those two are tested.

`Double.text` prints such a decimal positionally, without an exponent and without a fraction
when the value is whole. -/

namespace TelemetryExport

/-- The number `digits * 10 ^ exponent`. -/
structure Decimal where
  digits : Nat
  exponent : Int
deriving DecidableEq, Repr

/-- The number of decimal digits; `0` has one. -/
def digitCount (n : Nat) : Nat := (Nat.toDigits 10 n).length

/-- The exponent of the leading decimal digit of `num / den`, both positive. -/
def floorLog10 (num den : Nat) : Int :=
  if den ≤ num then (digitCount (num / den) : Int) - 1 else -digitCount ((den - 1) / num)

namespace Decimal

/-- The reals that round to a value, measured in quarters of its last binary place, which is
`2 ^ exponent` quarters wide: from `low` to `high`, the ends included when `closed`. -/
structure Interval where
  low : Nat
  value : Nat
  high : Nat
  exponent : Int
  closed : Bool
deriving Repr

/-- The interval of `significand * 2 ^ exponent`; below a power of two the gap is half as wide. -/
def interval (f : BinaryFormat) (significand : Nat) (exponent : Int) : Interval where
  low := 4 * significand -
    (if significand = power 2 f.fractionBits ∧ f.leastExponent < exponent then 1 else 2)
  value := 4 * significand
  high := 4 * significand + 2
  exponent := exponent - 2
  closed := significand % 2 == 0

/-- The point of the grid `10 ^ k` that lies inside the interval and nearest to the value. -/
def Interval.onGrid? (i : Interval) (k : Int) : Option Nat :=
  let unit := raise 10 k * raise 2 (-i.exponent)
  let scale := raise 2 i.exponent * raise 10 (-k)
  let inside (c : Nat) : Bool :=
    if i.closed then i.low * scale ≤ c * unit && c * unit ≤ i.high * scale
    else i.low * scale < c * unit && c * unit < i.high * scale
  let v := i.value * scale
  let c := v / unit
  match inside c, inside (c + 1) with
  | true, true => some (if v - c * unit < (c + 1) * unit - v then c else c + 1)
  | true, false => some c
  | false, true => some (c + 1)
  | false, false => none

/-- Tries the grids of ever more digits, `rounds` of them, and ends with the last one. -/
def search (i : Interval) (k : Int) : Nat → Decimal
  | 0 => ⟨i.value * (raise 2 i.exponent * raise 10 (-k)) /
      (raise 10 k * raise 2 (-i.exponent)), k⟩
  | rounds + 1 =>
    match i.onGrid? k with
    | some c => ⟨c, k⟩
    | none => search i (k - 1) rounds

/-- The shortest decimal of a positive value; seventeen digits always suffice. -/
def shortest (f : BinaryFormat) (significand : Nat) (exponent : Int) : Decimal :=
  search (interval f significand exponent)
    (floorLog10 (significand * raise 2 exponent) (raise 2 (-exponent))) 17

/-! ### Positional text -/

/-- Digits with a point before the last `places`; at least one digit stands before it. -/
def pointed (digits places : Nat) : List Char × List Char :=
  let ds := Nat.toDigits 10 digits
  let padded := List.replicate (places + 1 - ds.length) '0' ++ ds
  padded.splitAt (padded.length - places)

def dropTrailingZeros (cs : List Char) : List Char :=
  (cs.reverse.dropWhile (· == '0')).reverse

/-- All digits written out, no exponent, and no zeros at the end of a fraction. -/
def positional (d : Decimal) : String :=
  let (whole, fraction) := pointed (d.digits * raise 10 d.exponent) (-d.exponent).toNat
  let fraction := dropTrailingZeros fraction
  .ofList (if fraction.isEmpty then whole else whole ++ '.' :: fraction)

end Decimal

def Double.text (x : Double) : String :=
  match x.datum with
  | .nan => "NaN"
  | .infinite s => if s then "-inf" else "inf"
  | .finite s m e =>
    (if s then "-" else "") ++
      (if m = 0 then "0" else (Decimal.shortest .double m e).positional)

end TelemetryExport
