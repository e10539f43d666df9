import TelemetryExport.Binary.Number
import TelemetryExport.Calendar

/-! # Instants

A `Timestamp` counts seconds since the Unix epoch and nanoseconds within the second.  These may
reach one second more, which makes room for a leap second.  Only the years from -262143 to 262142
are kept.

A timestamp is moved by a span of whole seconds in two parts: first its time of day, then its day
by the whole days that this carries over.  A span, a number of days and the day that is reached
have each a range of their own.  Whoever moves at all leaves a leap second; going back over it takes
a second longer.

An `Instant` is what a clock tells: it is kept, and never within a leap second. -/

namespace TelemetryExport

def nanosPerSecond : Nat := 1000000000

/-! ### Spans -/

namespace Span

/-- The longest span, in seconds: its milliseconds still fit 64 bits. -/
def maxSeconds : Int := 9223372036854775

def ofSeconds? (seconds : Int) : Option Int :=
  if -maxSeconds ≤ seconds ∧ seconds ≤ maxSeconds then some seconds else none

/-- The seconds of a span that is given in minutes. -/
def ofMinutes? (minutes : Int) : Option Int := do ofSeconds? (← int64? (60 * minutes))

end Span

/-! ### Timestamps -/

structure Timestamp where
  seconds : Int
  nanos : Nat
deriving DecidableEq, Repr

namespace Timestamp

/-- The first day of the years that are kept, counted from the epoch. -/
def earliestDay : Int := Calendar.dayNumber (-262143) 1 1

/-- The last day of the years that are kept. -/
def latestDay : Int := Calendar.dayNumber 262142 12 31

def earliestSecond : Int := earliestDay * Calendar.secondsPerDay

def latestSecond : Int := (latestDay + 1) * Calendar.secondsPerDay - 1

example : earliestSecond = -8334601228800 ∧ latestSecond = 8210266876799 := by decide

/-- Nanoseconds since the epoch, a leap second counted like any other. -/
def total (t : Timestamp) : Int := t.seconds * nanosPerSecond + t.nanos

def isLeap (t : Timestamp) : Bool := nanosPerSecond ≤ t.nanos

def day (t : Timestamp) : Int := t.seconds / Calendar.secondsPerDay

def secondOfDay (t : Timestamp) : Int := t.seconds % Calendar.secondsPerDay

/-- The second of the day that a move leads to, before or after that day as it may be. -/
def movedSecond (t : Timestamp) (span : Int) : Int :=
  t.secondOfDay + (if t.isLeap ∧ span < 0 then 1 else 0) + span

/-- As many days can be gone forth. -/
def maxDays : Int := 2147483647

/-- As many days can be gone back, one more than forth. -/
def minDays : Int := -2147483648

def movedDay? (day days : Int) : Option Int :=
  if minDays ≤ days ∧ days ≤ maxDays ∧ earliestDay ≤ day + days ∧ day + days ≤ latestDay then
    some (day + days)
  else none

/-- The timestamp a span later, if it is kept. -/
def plus? (t : Timestamp) (span : Int) : Option Timestamp :=
  if span = 0 then some t
  else do
    let second := t.movedSecond span
    let carried ← Span.ofSeconds? (second - second % Calendar.secondsPerDay)
    let day ← movedDay? t.day (carried / Calendar.secondsPerDay)
    return ⟨day * Calendar.secondsPerDay + second % Calendar.secondsPerDay,
      t.nanos % nanosPerSecond⟩

/-- The timestamp a span before, if it is kept. -/
def minus? (t : Timestamp) (span : Int) : Option Timestamp := t.plus? (-span)

end Timestamp

/-! ### What a clock tells -/

/-- A second of the years that are kept, counted from the epoch. -/
structure Second where
  val : Int
  earliest_le : Timestamp.earliestSecond ≤ val
  le_latest : val ≤ Timestamp.latestSecond
deriving DecidableEq, Repr

namespace Second

instance : Coe Second Int := ⟨val⟩

/-- The second number `n`, or the last one if there are not so many. -/
def ofNat (n : Nat) : Second where
  val := min n Timestamp.latestSecond
  earliest_le := by
    have hearliest : Timestamp.earliestSecond ≤ 0 := by decide
    have hlatest : Timestamp.earliestSecond ≤ Timestamp.latestSecond := by decide
    omega
  le_latest := by omega

instance (n : Nat) : OfNat Second n := ⟨ofNat n⟩

end Second

/-- The nanosecond number `n` of some second. -/
def nanoOfNat (n : Nat) : Fin nanosPerSecond := ⟨n % nanosPerSecond, Nat.mod_lt _ (by decide)⟩

instance (n : Nat) : OfNat (Fin nanosPerSecond) n := ⟨nanoOfNat n⟩

structure Instant where
  second : Second
  nano : Fin nanosPerSecond
deriving DecidableEq, Repr

namespace Instant

def seconds (t : Instant) : Int := t.second

def timestamp (t : Instant) : Timestamp := ⟨t.seconds, t.nano⟩

end Instant
end TelemetryExport
