import TelemetryExport.Calendar
import TelemetryExport.Decimal.Digits

/-! # Dates and times

A date, a time of day, or a date and a time joined by the letter `T` or one blank, in that case
possibly with an offset from universal time.  Days must exist, and a second may be a leap
second. -/

namespace TelemetryExport
namespace Toml

/-- The rest after a date. -/
def date? (cs : List Char) : Option (List Char) := do
  let (year, cs) ← fixedNumber? 4 0 9999 cs
  let (month, cs) ← fixedNumber? 2 1 12 (← expect? '-' cs)
  let (_, cs) ← fixedNumber? 2 1 (Calendar.daysInMonth year month) (← expect? '-' cs)
  return cs

/-- A fraction of a second is a point and at least one digit. -/
def skipFraction : List Char → List Char
  | '.' :: c :: cs => if c.isDigit then cs.dropWhile Char.isDigit else '.' :: c :: cs
  | cs => cs

/-- The rest after a time of day. -/
def timeOfDay? (cs : List Char) : Option (List Char) := do
  let (_, cs) ← fixedNumber? 2 0 23 cs
  let (_, cs) ← fixedNumber? 2 0 59 (← expect? ':' cs)
  let (_, cs) ← fixedNumber? 2 0 60 (← expect? ':' cs)
  return skipFraction cs

/-- The rest after an offset, if there is one. -/
def offset? : List Char → Option (List Char)
  | [] => some []
  | c :: cs =>
    if c = 'Z' ∨ c = 'z' then some cs
    else if c = '+' ∨ c = '-' then do
      let (_, cs) ← fixedNumber? 2 0 23 cs
      let (_, cs) ← fixedNumber? 2 0 59 (← expect? ':' cs)
      return cs
    else some (c :: cs)

/-- The rest after a time of day that follows a date, if there is one. -/
def timeAfterDate? : List Char → Option (List Char)
  | [] => some []
  | c :: cs =>
    if c = 'T' ∨ c = 't' ∨ c = ' ' then
      match timeOfDay? cs with
      | some cs => offset? cs
      | none => some (c :: cs)
    else some (c :: cs)

/-- A date, a time or both, as written. -/
def moment? (cs : List Char) : Option (String × List Char) := do
  let rest ← match date? cs with
    | some cs => timeAfterDate? cs
    | none => timeOfDay? cs
  return (.ofList (cs.take (cs.length - rest.length)), rest)

end Toml
end TelemetryExport
