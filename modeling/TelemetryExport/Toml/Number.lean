import TelemetryExport.Decimal.Digits
import TelemetryExport.Toml.Quoted
import TelemetryExport.Toml.Value

/-! # Numbers

Integers are decimal with an optional sign and no leading zero, or hexadecimal, octal or binary
without a sign, and must fit 64 bits.  Floats have a fraction, an exponent or both, or are one
of `inf` and `nan`; a positive float beyond the largest finite number is refused.  Everywhere a
single underscore may stand between two digits. -/

namespace TelemetryExport
namespace Toml

/-- The digits that continue a number, and the rest. -/
def moreDigits (isDigit : Char → Bool) : List Char → List Char × List Char
  | [] => ([], [])
  | '_' :: c :: cs =>
    if isDigit c then
      let (ds, rest) := moreDigits isDigit cs
      (c :: ds, rest)
    else ([], '_' :: c :: cs)
  | c :: cs =>
    if isDigit c then
      let (ds, rest) := moreDigits isDigit cs
      (c :: ds, rest)
    else ([], c :: cs)

/-- One digit or more. -/
def digits? (isDigit : Char → Bool) : List Char → Option (List Char × List Char)
  | [] => none
  | c :: cs =>
    if isDigit c then
      let (ds, rest) := moreDigits isDigit cs
      some (c :: ds, rest)
    else none

/-- The digits before a point: a zero stands alone. -/
def wholeDigits? : List Char → Option (List Char × List Char)
  | '0' :: cs => some (['0'], cs)
  | cs => digits? Char.isDigit cs

def integer? (i : Int) : Option Value :=
  if minInt64 ≤ i ∧ i ≤ maxInt64 then some (.integer i) else none

/-- Digits in base `2`, `8` or `16`. -/
def basedNumber? (base : Nat) (cs : List Char) : Option (Value × List Char) := do
  let (ds, cs) ← digits? (fun c => isHexDigit c && hexValue c < base) cs
  return (← integer? (ds.foldl (fun n c => base * n + hexValue c) 0 : Nat), cs)

/-- A point and the digits after it, if there is one. -/
def fraction? : List Char → Option (Option (List Char) × List Char)
  | '.' :: cs => (digits? Char.isDigit cs).map fun (ds, cs) => (some ds, cs)
  | cs => some (none, cs)

/-- An exponent, if there is one. -/
def exponent? : List Char → Option (Option Int × List Char)
  | c :: cs =>
    if c = 'e' ∨ c = 'E' then do
      let (negative, cs) := takeSign cs
      let (ds, cs) ← digits? Char.isDigit cs
      return (some (Datum.withSign negative (naturalOfDigits ds)), cs)
    else some (none, c :: cs)
  | [] => some (none, [])

def float? (negative : Bool) (whole fraction : List Char) (exponent : Int) : Option Value :=
  let x := Double.nearestTo negative
    ⟨naturalOfDigits (whole ++ fraction), exponent - fraction.length⟩
  if x.datum = .infinite false then none else some (.float x)

def decimalNumber? (negative : Bool) (cs : List Char) : Option (Value × List Char) := do
  let (whole, cs) ← wholeDigits? cs
  let (fraction, cs) ← fraction? cs
  let (exponent, cs) ← exponent? cs
  match fraction, exponent with
  | none, none => return (← integer? (Datum.withSign negative (naturalOfDigits whole)), cs)
  | _, _ => return (← float? negative whole (fraction.getD []) (exponent.getD 0), cs)

/-- `inf` or `nan`. -/
def specialFloat? (negative : Bool) : List Char → Option (Value × List Char)
  | 'i' :: 'n' :: 'f' :: cs => some (.float (.ofDatum (.infinite negative)), cs)
  | 'n' :: 'a' :: 'n' :: cs => some (.float (.ofDatum .nan), cs)
  | _ => none

def number? : List Char → Option (Value × List Char)
  | '0' :: 'x' :: cs => basedNumber? 16 cs
  | '0' :: 'o' :: cs => basedNumber? 8 cs
  | '0' :: 'b' :: cs => basedNumber? 2 cs
  | cs =>
    let (negative, cs) := takeSign cs
    specialFloat? negative cs <|> decimalNumber? negative cs

end Toml
end TelemetryExport
