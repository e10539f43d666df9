import TelemetryExport.Bytes

/-! # Bytes as hexadecimal digits

Two lower-case digits for each byte. -/

namespace TelemetryExport
namespace Text

/-- A lower-case hexadecimal digit. -/
def hexDigit? (c : Char) : Option Nat :=
  if c.isDigit then some (c.toNat - '0'.toNat)
  else if 'a' ≤ c ∧ c ≤ 'f' then some (c.toNat - 'a'.toNat + 10)
  else none

/-- A byte as two digits. -/
def hexByte (b : UInt8) : String :=
  .ofList [Nat.digitChar (b.toNat / 16), Nat.digitChar (b.toNat % 16)]

def hex (bytes : Bytes) : String := String.join (bytes.map hexByte)

def ofHex? : List Char → Option Bytes
  | [] => some []
  | a :: b :: cs => do return UInt8.ofNat (16 * (← hexDigit? a) + (← hexDigit? b)) :: (← ofHex? cs)
  | _ => none

end Text
end TelemetryExport
