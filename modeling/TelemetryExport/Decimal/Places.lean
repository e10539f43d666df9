import TelemetryExport.Decimal.Shortest

/-! # Decimals of a fixed length

`Single.fixed` writes a measurement with a given number of places after the point, a tie going
to the even digit.  `Double.significant` writes a stored real with fifteen significant digits,
a tie going away from zero: positionally when the leading digit stands between the fourth place
after the point and the fifteenth before it, with an exponent otherwise, and always with a
point and a digit after it. -/

namespace TelemetryExport

def Single.fixed (places : Nat) (x : Single) : String :=
  match x.datum with
  | .nan => "NaN"
  | .infinite s => if s then "-inf" else "inf"
  | .finite s m e =>
    let n := roundDiv (m * raise 2 e * power 10 places) (raise 2 (-e))
    let (whole, fraction) := Decimal.pointed n places
    (if s then "-" else "") ++ .ofList (whole ++ '.' :: fraction)

namespace Decimal

/-- The `count` leading digits of `num / den`, rounded half up. -/
def leading (count num den : Nat) : Decimal :=
  let k := floorLog10 num den - (count - 1 : Nat)
  let n := num * raise 10 (-k)
  let d := den * raise 10 k
  let digits := (2 * n + d) / (2 * d)
  if digits = power 10 count then ⟨power 10 (count - 1), k + 1⟩ else ⟨digits, k⟩

/-- The number of significant digits of a stored real's text. -/
def storedDigits : Nat := 15

/-- An exponent with its sign and at least two digits. -/
def exponentText (e : Int) : List Char :=
  let ds := Nat.toDigits 10 e.natAbs
  (if e < 0 then '-' else '+') :: (List.replicate (2 - ds.length) '0' ++ ds)

def orZero (cs : List Char) : List Char := if cs.isEmpty then ['0'] else cs

/-- The text of a positive real. -/
def significantText (num den : Nat) : List Char :=
  let d := leading storedDigits num den
  let ds := dropTrailingZeros (Nat.toDigits 10 d.digits)
  let e := d.exponent + (storedDigits - 1 : Nat)
  if e < -4 ∨ (storedDigits : Int) ≤ e then
    ds.take 1 ++ '.' :: orZero (ds.drop 1) ++ 'e' :: exponentText e
  else if e < 0 then
    '0' :: '.' :: (List.replicate ((-e).toNat - 1) '0' ++ ds)
  else
    let whole := e.toNat + 1
    ds.take whole ++ List.replicate (whole - ds.length) '0' ++ '.' :: orZero (ds.drop whole)

end Decimal

def Double.significant (x : Double) : String :=
  match x.datum with
  | .nan => "NaN"
  | .infinite s => if s then "-Inf" else "Inf"
  | .finite s m e =>
    if m = 0 then "0.0"
    else
      .ofList ((if s then ['-'] else []) ++
        Decimal.significantText (m * raise 2 e) (raise 2 (-e)))

end TelemetryExport
