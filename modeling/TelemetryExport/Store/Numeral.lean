import TelemetryExport.Decimal.Digits

/-! # Numbers in stored text

The store reads numbers out of text in two ways.

* `leadingInteger` takes the integer at the beginning of any text: blanks, a sign, digits; what
  follows does not matter, and a text without digits counts as zero.  The result is moved into
  the signed 64-bit range.
* `numeral?` accepts a text only if all of it is one number: blanks around, a sign, digits with
  or without a point, an exponent.  The digits are kept as a mantissa and a power of ten, and
  digits beyond the mantissa's capacity are dropped.

Only the six ASCII blanks and the ten ASCII digits count. -/

namespace TelemetryExport
namespace Store

/-- Tab, line feed, vertical tab, form feed, carriage return and space. -/
def isBlank (c : Char) : Bool := c == ' ' || ('\t' ≤ c && c ≤ '\r')

def skipBlanks (cs : List Char) : List Char := cs.dropWhile isBlank

/-- The integer at the beginning of a text, with nothing said about its size. -/
def unboundedInteger (cs : List Char) : Int :=
  let (negative, cs) := takeSign (skipBlanks cs)
  Datum.withSign negative (naturalOfDigits (cs.takeWhile Char.isDigit))

def leadingInteger (cs : List Char) : Int := saturate (unboundedInteger cs)

/-! ### Whole texts -/

/-- The number `± mantissa * 10 ^ exponent`; `integral` when it was written without a point and
without an exponent. -/
structure Numeral where
  negative : Bool
  mantissa : Nat
  exponent : Int
  integral : Bool
deriving DecidableEq, Repr

/-- From here on a mantissa takes no further digit. -/
def mantissaLimit : Nat := (18446744073709551616 - 10) / 10

/-- Digits before the point: those that no longer fit raise the exponent. -/
def addWhole (m : Nat × Int) (c : Char) : Nat × Int :=
  if m.1 < mantissaLimit then (10 * m.1 + digitValue c, m.2) else (m.1, m.2 + 1)

/-- Digits after the point: those that fit lower the exponent. -/
def addFraction (m : Nat × Int) (c : Char) : Nat × Int :=
  if m.1 < mantissaLimit then (10 * m.1 + digitValue c, m.2 - 1) else m

/-- An exponent's digits; beyond ten thousand it stops growing. -/
def addExponent (e : Nat) (c : Char) : Nat :=
  if e < 10000 then 10 * e + digitValue c else 10000

/-- A point and the digits after it, if there is one. -/
def takeFraction : List Char → Bool × List Char × List Char
  | '.' :: cs => (true, cs.takeWhile Char.isDigit, cs.dropWhile Char.isDigit)
  | cs => (false, [], cs)

/-- The exponent and what follows it; `none` if an exponent begins and has no digit. -/
def takeExponent? : List Char → Option (Bool × Int × List Char)
  | c :: cs =>
    if c = 'e' ∨ c = 'E' then
      let (negative, cs) := takeSign cs
      let ds := cs.takeWhile Char.isDigit
      if ds.isEmpty then none
      else
        some (true, Datum.withSign negative (ds.foldl addExponent 0), cs.dropWhile Char.isDigit)
    else some (false, 0, c :: cs)
  | [] => some (false, 0, [])

def numeral? (cs : List Char) : Option Numeral := do
  let (negative, cs) := takeSign (skipBlanks cs)
  let ds := cs.takeWhile Char.isDigit
  let (pointed, fs, cs) := takeFraction (cs.dropWhile Char.isDigit)
  let (scaled, e, cs) ← takeExponent? cs
  guard (!(ds.isEmpty && fs.isEmpty) && (skipBlanks cs).isEmpty)
  let (mantissa, shift) := fs.foldl addFraction (ds.foldl addWhole (0, 0))
  return ⟨negative, mantissa, e + shift, !pointed && !scaled⟩

/-- The nearest binary64 number. -/
def Numeral.toDouble (n : Numeral) : Double := .nearestTo n.negative ⟨n.mantissa, n.exponent⟩

end Store
end TelemetryExport
