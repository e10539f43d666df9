import Mathlib.Data.List.Forall2
import TelemetryExport.Proofs.Binary.Exact
import TelemetryExport.Store.Answer

/-! # What a column keeps

A measurement is widened, turned into an integer where it is one, and turned back when it is
read, so a stored number may have other bits than the one that was inserted: a negative zero
comes back as a positive one.  Its value stays what it was (`Affinity.exists_toSingle_convert`),
and so a row of a finite record reads back as a record that agrees with it in all values
(`Sample.exists_toRecord`). -/

namespace TelemetryExport

/-- Both are finite, and they are numerically equal. -/
def Single.Agrees (x y : Single) : Prop :=
  ∃ v, x.datum.value? = some v ∧ y.datum.value? = some v

structure Reading.Agrees (a b : Reading) : Prop where
  temperature : a.temperature.Agrees b.temperature
  humidity : a.humidity.Agrees b.humidity
  waterLevel : a.waterLevel.Agrees b.waterLevel

theorem Reading.finite_iff (a : Reading) :
    a.Finite ↔ a.temperature.isFinite = true ∧ a.humidity.isFinite = true ∧
      a.waterLevel.isFinite = true := by
  simp [Finite, fields]

theorem Reading.Agrees.finite {a b : Reading} (h : a.Agrees b) : b.Finite := by
  obtain ⟨⟨t, -, ht⟩, ⟨u, -, hu⟩, ⟨w, -, hw⟩⟩ := h
  rw [Reading.finite_iff]
  exact ⟨Single.isFinite_of_value? ht, Single.isFinite_of_value? hu, Single.isFinite_of_value? hw⟩

structure Record.Agrees (r s : Record) : Prop where
  deviceId : r.deviceId = s.deviceId
  timestamp : r.timestamp = s.timestamp
  reading : r.reading.Agrees s.reading

namespace Store

/-! ### Cells -/

theorem value?_of_exactInteger? {x : Double} {i : Int} {v : ℚ} (h : exactInteger? x = some i)
    (hx : x.datum.value? = some v) : (Double.ofInt i).datum.value? = some v := by
  unfold exactInteger? at h
  dsimp only at h
  split_ifs at h with hg
  cases h
  exact Double.value?_of_equals hg.2.2 hx

/-- A finite number in a column of reals reads back as a real of the same value. -/
theorem Affinity.exists_real_convert {x : Double} {v : ℚ} (hx : x.datum.value? = some v) :
    ∃ y : Double, Affinity.real.convert (.ofDouble x) = .real y ∧ y.datum.value? = some v := by
  have hnan : x.isNaN = false := Double.isNaN_eq_false hx
  have hcell : Cell.ofDouble x = .real x := by
    rw [Cell.ofDouble, hnan]
    rfl
  have hconvert : Affinity.real.convert (.real x) = asReal (preferInteger x) := rfl
  rw [hcell, hconvert, preferInteger]
  cases hi : exactInteger? x with
  | none => exact ⟨x, rfl, hx⟩
  | some i => exact ⟨.ofInt i, rfl, value?_of_exactInteger? hi hx⟩

theorem Affinity.exists_toSingle_convert {x : Single} (hx : x.isFinite = true) :
    ∃ y : Single, (Affinity.real.convert (.ofDouble x.toDouble)).toSingle = .ok y ∧ x.Agrees y := by
  obtain ⟨v, hv⟩ := Single.exists_value?_of_isFinite hx
  obtain ⟨y, hy, hyv⟩ := exists_real_convert (Single.value?_toDouble hv)
  refine ⟨y.toSingle, ?_, v, hv, Single.value?_toSingle hv hyv⟩
  rw [hy]
  rfl

/-! ### Rows -/

/-- A record as the queries see it after it was inserted. -/
def Sample.ofRecord (r : Record) (id : Int) : Sample where
  id := id
  deviceId := some r.deviceId
  temperature := Affinity.real.convert (.ofDouble r.reading.temperature.toDouble)
  humidity := Affinity.real.convert (.ofDouble r.reading.humidity.toDouble)
  waterLevel := Affinity.real.convert (.ofDouble r.reading.waterLevel.toDouble)
  timestamp := some r.timestamp

theorem Row.normalise_own (now : Clock) (r : Record) (id : Int) :
    (Row.mk id ((Cells.ofRecord r).convert .own)).normalise now = .ofRecord r id := rfl

/-- What is read of a finite record agrees with it. -/
theorem Sample.exists_toRecord {r : Record} (hr : r.reading.Finite) (id : Int) :
    ∃ s : Record, (Sample.ofRecord r id).toRecord r.deviceId = .ok s ∧ r.Agrees s := by
  obtain ⟨ht, hu, hw⟩ := r.reading.finite_iff.mp hr
  obtain ⟨t, ht, htv⟩ := Affinity.exists_toSingle_convert ht
  obtain ⟨u, hu, huv⟩ := Affinity.exists_toSingle_convert hu
  obtain ⟨w, hw, hwv⟩ := Affinity.exists_toSingle_convert hw
  refine ⟨⟨r.deviceId, ⟨t, u, w⟩, r.timestamp⟩, ?_, rfl, rfl, htv, huv, hwv⟩
  unfold toRecord measurement ofRecord
  dsimp only
  rw [ht, hu, hw]
  rfl

end Store
end TelemetryExport
