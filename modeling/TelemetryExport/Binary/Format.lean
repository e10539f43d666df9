import TelemetryExport.Power

/-! # Binary floating-point patterns

Measurements, record counts and stored reals are bit patterns of the binary interchange
formats.  A `BinaryFormat` fixes the widths of the fraction and exponent fields; `datum` reads
a pattern as a not-a-number, a signed infinity or a signed dyadic `significand * 2 ^ exponent`,
and `pattern` writes a datum back, rounded to the nearest representable value with ties to the
even significand.

All arithmetic is exact on natural numbers and integers: an operation is carried out on the
data and rounded once by `pattern`.  The rounding itself is `nearest`, which takes an arbitrary
quotient `num / den`, so that the same function serves decimal numerals, integers, the other
width and the results of sums and products. -/

namespace TelemetryExport

/-- The widths of the two fields below the sign bit. -/
structure BinaryFormat where
  fractionBits : Nat
  exponentBits : Nat
deriving DecidableEq, Repr

/-- What a bit pattern stands for. -/
inductive Datum where
  | nan
  | infinite (negative : Bool)
  | finite (negative : Bool) (significand : Nat) (exponent : Int)
deriving DecidableEq, Repr

/-- The quotient rounded to the nearest natural number, a tie going to the even one. -/
def roundDiv (num den : Nat) : Nat :=
  let q := num / den
  let r := num % den
  if 2 * r < den then q else if den < 2 * r then q + 1 else q + q % 2

/-- The exponent of the leading bit of `num / den`. -/
def floorLog (num den : Nat) : Int :=
  let d : Int := (num.log2 : Int) - den.log2
  if den * raise 2 d ≤ num * raise 2 (-d) then d else d - 1

namespace BinaryFormat

def single : BinaryFormat := ⟨23, 8⟩

def double : BinaryFormat := ⟨52, 11⟩

variable (f : BinaryFormat)

/-- The exponent of the lowest bit a finite value can have. -/
def leastExponent : Int := 2 - power 2 (f.exponentBits - 1) - f.fractionBits

/-- The pattern of positive infinity. -/
def infinity : Nat := (power 2 f.exponentBits - 1) * power 2 f.fractionBits

/-- The value of the sign bit. -/
def signBit : Nat := power 2 (f.fractionBits + f.exponentBits)

/-! ### Reading a pattern -/

def datum (bits : Nat) : Datum :=
  let negative := bits / f.signBit % 2 == 1
  let fraction := bits % power 2 f.fractionBits
  let exponent := bits / power 2 f.fractionBits % power 2 f.exponentBits
  if exponent = power 2 f.exponentBits - 1 then
    if fraction = 0 then .infinite negative else .nan
  else if exponent = 0 then .finite negative fraction f.leastExponent
  else .finite negative (power 2 f.fractionBits + fraction) (f.leastExponent + exponent - 1)

/-! ### Rounding to a pattern -/

/-- The pattern, without sign, of the representable value nearest to `num / den`; beyond the
largest finite value it is infinity. -/
def nearest (num den : Nat) : Nat :=
  if num = 0 then 0
  else
    let e := max f.leastExponent (floorLog num den - f.fractionBits)
    let m := roundDiv (num * raise 2 (-e)) (den * raise 2 e)
    min (m + (e - f.leastExponent).toNat * power 2 f.fractionBits) f.infinity

def signed (negative : Bool) (magnitude : Nat) : Nat :=
  if negative then f.signBit + magnitude else magnitude

def pattern : Datum → Nat
  | .nan => f.infinity + power 2 (f.fractionBits - 1)
  | .infinite s => f.signed s f.infinity
  | .finite s m e => f.signed s (f.nearest (m * raise 2 e) (raise 2 (-e)))

end BinaryFormat

namespace Datum

/-! ### Exact arithmetic -/

/-- The integer `± m`. -/
def withSign (negative : Bool) (m : Nat) : Int := if negative then -m else m

def ofInt (i : Int) : Datum := .finite (decide (i < 0)) i.natAbs 0

/-- The sum; an exact zero is positive unless both terms are negative. -/
def add : Datum → Datum → Datum
  | .finite s m p, .finite t n q =>
    let e := min p q
    let x := withSign s (m * raise 2 (p - e)) + withSign t (n * raise 2 (q - e))
    .finite (if x = 0 then s && t else decide (x < 0)) x.natAbs e
  | .infinite s, .infinite t => if s = t then .infinite s else .nan
  | .infinite s, .finite .. => .infinite s
  | .finite .., .infinite t => .infinite t
  | .nan, _ => .nan
  | _, .nan => .nan

def neg : Datum → Datum
  | .nan => .nan
  | .infinite s => .infinite (!s)
  | .finite s m e => .finite (!s) m e

def mul : Datum → Datum → Datum
  | .finite s m p, .finite t n q => .finite (s != t) (m * n) (p + q)
  | .infinite s, .infinite t => .infinite (s != t)
  | .infinite s, .finite t n _ => if n = 0 then .nan else .infinite (s != t)
  | .finite s m _, .infinite t => if m = 0 then .nan else .infinite (s != t)
  | .nan, _ => .nan
  | _, .nan => .nan

/-- The whole part, toward zero; `none` where there is none. -/
def truncate? : Datum → Option Int
  | .finite s m e => some (withSign s (m * raise 2 e / raise 2 (-e)))
  | _ => none

end Datum
end TelemetryExport
