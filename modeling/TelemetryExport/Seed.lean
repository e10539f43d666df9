import TelemetryExport.Instant
import TelemetryExport.Settings.Basic

/-! # Seeding

Fills the store with synthetic readings of one device, a quarter of an hour apart and the last
of them now.  The temperature rises from reading to reading, the humidity goes around in
circles and the water level falls to a floor, all in binary32 arithmetic.

The start is found by going back once, over all steps; from there each step is added before its
reading is inserted.  Nothing is inserted when the start would be too far back. -/

namespace TelemetryExport
namespace Seed

/-! ### Times -/

def stepMinutes : Int := 15

/-- Seconds from one reading to the next. -/
def step : Int := 60 * stepMinutes

/-- The seconds that `count` steps take. -/
def span? (count : Nat) : Option Int := do
  let count ← int64? count
  Span.ofMinutes? (← int64? (count * stepMinutes))

/-- One step before the first of `count` readings. -/
def start? (now : Timestamp) (count : Nat) : Option Timestamp := do now.minus? (← span? count)

/-! ### Readings -/

/-- Nearest to a tenth. -/
def tenth : Single := ⟨0x3dcccccd⟩

/-- Nearest to a twentieth. -/
def twentieth : Single := ⟨0x3d4ccccd⟩

def temperature (i : Nat) : Single := (Single.ofInt 20).add ((Single.ofInt i).mul tenth)

def humidity (i : Nat) : Single := (Single.ofInt 45).add (.ofInt (i % 20 : Nat))

def waterLevel (i : Nat) : Single :=
  (Single.ofInt 10).sub (((Single.ofInt i).mul twentieth).min (.ofInt 9))

def reading (i : Nat) : Reading := ⟨temperature i, humidity i, waterLevel i⟩

/-- The record of reading number `i`, counted from zero, taken at the given time. -/
def record (deviceId : Int) (i : Nat) (time : Timestamp) : Record :=
  ⟨deviceId, reading i, time.seconds⟩

/-! ### Filling the store -/

inductive Error where
  | prepare (cause : Store.WriteError)
  | tooFarBack (count : Nat)
  /-- A step leads out of the years that are kept. -/
  | pastTheEnd
  | insert (cause : Store.WriteError)
deriving DecidableEq, Repr

/-- The program does not survive the failure. -/
def Error.isCrash : Error → Bool
  | prepare cause => cause.isCrash
  | tooFarBack _ => false
  | pastTheEnd => true
  | insert cause => cause.isCrash

def Error.message : Error → String
  | prepare cause =>
    if cause.isCrash then cause.message
    else "Failed to initialize database: " ++ cause.message
  | tooFarBack count =>
    "Seed count " ++ toString count ++ " spans too far into the past"
  | pastTheEnd => "`DateTime + TimeDelta` overflowed"
  | insert cause => cause.message

def announcement (path : String) (deviceId : Int) (count : Nat) : LogLine :=
  ⟨.info, "Seeded " ++ path ++ " with " ++ toString count ++ " records for device " ++
    toString deviceId⟩

def start (now : Timestamp) (count : Nat) : Except Error Timestamp :=
  match start? now count with
  | some time => .ok time
  | none => .error (.tooFarBack count)

/-- Inserts the next `left` readings, from number `i` on, the first of them a step after `time`. -/
def fill (a : Store.Access) (deviceId : Int) :
    (left i : Nat) → (time : Timestamp) → Store.File → Except Error Unit × Store.File
  | 0, _, _, f => (.ok (), f)
  | left + 1, i, time, f =>
    match time.plus? step with
    | none => (.error .pastTheEnd, f)
    | some time =>
      match f.insert a (record deviceId i time) with
      | (.error e, f) => (.error (.insert e), f)
      | (.ok (), f) => fill a deviceId left (i + 1) time f

def run (s : StoreSettings) (deviceId : Int) (count : Nat) (now : Instant) (f : Store.File) :
    Except Error (List LogLine) × Store.File :=
  match Store.File.init s.access f with
  | (.error e, f) => (.error (.prepare e), f)
  | (.ok (), f) =>
    match start now.timestamp count with
    | .error e => (.error e, f)
    | .ok time =>
      match fill s.access deviceId count 0 time f with
      | (.error e, f) => (.error e, f)
      | (.ok (), f) => (.ok [announcement s.path deviceId count], f)

end Seed
end TelemetryExport
