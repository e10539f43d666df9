import TelemetryExport.Calendar
import TelemetryExport.Store.Numeral

/-! # Instants in stored text

`instant?` reads a time in the forms in which one is stored as text and gives seconds since the
Unix epoch:

* a date `YYYY-MM-DD`, with a minus sign before the year allowed, and after it, separated by any
  number of blanks and letters `T`, possibly a time of day;
* a time of day alone, which is that time on 2000-01-01;
* a number, which counts days, and fractions of a day, from noon on -4713-11-24;
* a word for the present, `now`, `subsec` or `subsecond`, in any capitals.

A time of day is `HH:MM` or `HH:MM:SS`, the seconds with a decimal fraction allowed, possibly
followed by `Z` or by an offset from universal time.  Fractions of a second are dropped.  Hours
go up to 24 and days up to 31 in every month; both run on into what follows.  An instant outside
the years from -4713-11-24 to 9999-12-31 is no instant.

The present is what a `Clock` shows to whoever reads the text.  All other texts are the same
instant at any time. -/

namespace TelemetryExport
namespace Store

/-- Seconds from noon on -4713-11-24 to the Unix epoch. -/
def epochOffset : Int := 210866760000

/-- The last second of the year 9999, counted from noon on -4713-11-24. -/
def lastSecond : Int := 464269060799

/-- Seconds counted from noon on -4713-11-24, if they are in range, counted from the epoch. -/
def ofDaySeconds? (s : Int) : Option Int :=
  if 0 ≤ s ∧ s ≤ lastSecond then some (s - epochOffset) else none

/-- A further digit of a fraction, all of them taken for a whole number in binary64 arithmetic. -/
def addDigit (x : Double) (c : Char) : Double :=
  ((x.mul (.ofNat 10)).add (.ofNat c.toNat)).add (.ofInt (-48))

/-- A decimal fraction is skipped if a digit follows the point.  One with so many digits that they
add up to infinity makes the time no time. -/
def skipFraction? : List Char → Option (List Char)
  | '.' :: d :: cs => do
    if d.isDigit then
      let total := ((d :: cs).takeWhile Char.isDigit).foldl addDigit (.ofNat 0)
      guard (total.datum ≠ .infinite false)
      return cs.dropWhile Char.isDigit
    else return '.' :: d :: cs
  | cs => some cs

/-- An offset in minutes, to the end of the text; nothing at all is no offset. -/
def offset? (cs : List Char) : Option Int := do
  let ends (cs : List Char) : Option Unit := guard (skipBlanks cs).isEmpty
  match skipBlanks cs with
  | [] => return 0
  | c :: cs =>
    if c = 'Z' ∨ c = 'z' then
      ends cs
      return 0
    else
      guard (c = '-' ∨ c = '+')
      let (h, cs) ← fixedNumber? 2 0 14 cs
      let (m, cs) ← fixedNumber? 2 0 59 (← expect? ':' cs)
      ends cs
      return Datum.withSign (c == '-') (60 * h + m)

/-- Seconds since midnight, universal time. -/
def timeOfDay? (cs : List Char) : Option Int := do
  let (h, cs) ← fixedNumber? 2 0 24 cs
  let (m, cs) ← fixedNumber? 2 0 59 (← expect? ':' cs)
  let (s, cs) ← match cs with
    | ':' :: cs => do
      let (s, cs) ← fixedNumber? 2 0 59 cs
      some (s, ← skipFraction? cs)
    | cs => some (0, cs)
  return 3600 * h + 60 * m + s - 60 * (← offset? cs)

/-- A calendar date as year, month and day, and the rest. -/
def date? (cs : List Char) : Option (Int × Nat × Nat × List Char) := do
  let (negative, cs) := match cs with
    | '-' :: cs => (true, cs)
    | cs => (false, cs)
  let (y, cs) ← fixedNumber? 4 0 9999 cs
  let (m, cs) ← fixedNumber? 2 1 12 (← expect? '-' cs)
  let (d, cs) ← fixedNumber? 2 1 31 (← expect? '-' cs)
  return (Datum.withSign negative y, m, d, cs)

/-- A date and possibly a time of day, in seconds since the epoch. -/
def dateTime? (cs : List Char) : Option Int := do
  let (y, m, d, cs) ← date? cs
  let rest := cs.dropWhile fun c => isBlank c || c == 'T'
  let t ← if rest.isEmpty then some 0 else timeOfDay? rest
  guard (-4713 ≤ y)
  return Calendar.dayNumber y m d * Calendar.secondsPerDay + t

/-- The day that a time of day alone belongs to, 2000-01-01. -/
def defaultDay : Int := Calendar.dayNumber 2000 1 1

def millisecondsPerDay : Double := .ofNat 86400000

def half : Double := .ofQuotient false 1 2

/-- Seconds of a day number, through milliseconds rounded in binary64 arithmetic. -/
def ofDayNumber? (r : Double) : Option Int :=
  match r.datum with
  | .finite s m _ =>
    if s && m != 0 then none
    else ofDaySeconds? (((r.mul millisecondsPerDay).add half).saturated / 1000)
  | _ => none

/-! ### The present -/

/-- What a clock shows: milliseconds since the epoch. -/
structure Clock where
  milliseconds : Int
deriving DecidableEq, Repr

/-- The clock shows an instant, and a later one than noon on -4713-11-24. -/
def Clock.InRange (now : Clock) : Prop :=
  0 < now.milliseconds + 1000 * epochOffset ∧
    now.milliseconds + 1000 * epochOffset < 1000 * (lastSecond + 1)

instance (now : Clock) : Decidable now.InRange := inferInstanceAs (Decidable (_ ∧ _))

/-- The present as a whole number of seconds, or with its milliseconds. -/
inductive Present where
  | second
  | millisecond
deriving DecidableEq, Repr

/-- The words for the present. -/
def Present.ofText? (cs : List Char) : Option Present :=
  match String.ofList (cs.map Char.toLower) with
  | "now" => some .second
  | "subsec" => some .millisecond
  | "subsecond" => some .millisecond
  | _ => none

/-- Whole seconds are counted toward the past, and milliseconds cut off toward the epoch. -/
def Clock.seconds (now : Clock) : Present → Int
  | .second => now.milliseconds / 1000
  | .millisecond => now.milliseconds.tdiv 1000

def present? (now : Clock) (cs : List Char) : Option Int := do
  let form ← Present.ofText? cs
  guard now.InRange
  return now.seconds form

/-! ### All forms -/

/-- The text up to the first NUL. -/
def beforeNul (text : String) : List Char := text.toList.takeWhile (· != '\x00')

/-- The text is a word for the present. -/
def readsClock (text : String) : Bool := (Present.ofText? (beforeNul text)).isSome

def instant? (now : Clock) (text : String) : Option Int :=
  let cs := beforeNul text
  match dateTime? cs with
  | some t => ofDaySeconds? (t + epochOffset)
  | none =>
    match timeOfDay? cs with
    | some t => ofDaySeconds? (defaultDay * Calendar.secondsPerDay + t + epochOffset)
    | none =>
      match numeral? cs with
      | some n => ofDayNumber? n.toDouble
      | none => present? now cs

end Store
end TelemetryExport
