import TelemetryExport.Binary.Number

/-! # Readings and records

A `Reading` is what travels: three measurements in wire order.  A `Record` is a reading with
the device it belongs to and the second, counted from the Unix epoch, at which it was taken;
the two serve selection and ordering only and never travel. -/

namespace TelemetryExport

/-- The measurements, in wire order. -/
inductive Field where
  | temperature
  | humidity
  | waterLevel
deriving DecidableEq, Repr

def Field.name : Field → String
  | temperature => "temperature"
  | humidity => "humidity"
  | waterLevel => "water_level"

structure Reading where
  temperature : Single
  humidity : Single
  waterLevel : Single
deriving DecidableEq, Repr, Inhabited

namespace Reading

def fields (r : Reading) : List (Field × Single) :=
  [(.temperature, r.temperature), (.humidity, r.humidity), (.waterLevel, r.waterLevel)]

/-- The first measurement that is infinite or not a number. -/
def nonFinite? (r : Reading) : Option Field :=
  (r.fields.find? fun p => !p.2.isFinite).map (·.1)

/-- All three measurements are finite. -/
def Finite (r : Reading) : Prop := ∀ p ∈ r.fields, p.2.isFinite = true

instance (r : Reading) : Decidable r.Finite := inferInstanceAs (Decidable (∀ p ∈ r.fields, _))

theorem nonFinite?_eq_none_iff (r : Reading) : r.nonFinite? = none ↔ r.Finite := by
  simp [nonFinite?, Finite, fields]

end Reading

structure Record where
  deviceId : Int
  reading : Reading
  timestamp : Int
deriving DecidableEq, Repr, Inhabited

end TelemetryExport
