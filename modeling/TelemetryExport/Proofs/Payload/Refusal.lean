import TelemetryExport.Proofs.Payload.RoundTrip

/-! # Which records are refused

A list of records is refused for one measurement that is not finite, the first of them: in the first
record that has one (`firstNonFinite?_eq_some_iff`), and there the first in wire order
(`Reading.nonFinite?_eq_some_iff`).  A list without one is written, at a length and in a layout that
depend on the readings alone.  `encodedExactly` collects this for every count that a binary64 number
carries exactly, the largest one included. -/

namespace TelemetryExport

/-- A number is finite if its pattern has a value. -/
theorem Single.isFinite_iff_exists_value? (x : Single) :
    x.isFinite = true ↔ ∃ v, x.datum.value? = some v :=
  ⟨exists_value?_of_isFinite, fun ⟨_, h⟩ => isFinite_of_value? h⟩

/-! ### The first measurement -/

namespace Reading

/-- The measurement is not finite, and those before it in wire order are. -/
def RefusedFor (r : Reading) (field : Field) : Prop :=
  ∃ earlier x later, r.fields = earlier ++ (field, x) :: later ∧
    (∀ p ∈ earlier, p.2.isFinite = true) ∧ x.isFinite = false

theorem nonFinite?_eq_some_iff {r : Reading} {field : Field} :
    r.nonFinite? = some field ↔ r.RefusedFor field := by
  rw [nonFinite?, Option.map_eq_some_iff]
  constructor
  · rintro ⟨⟨_, x⟩, hfind, rfl⟩
    obtain ⟨hx, earlier, later, hfields, hearlier⟩ := List.find?_eq_some_iff_append.mp hfind
    exact ⟨earlier, x, later, hfields, by simpa using hearlier, by simpa using hx⟩
  · rintro ⟨earlier, x, later, hfields, hearlier, hx⟩
    refine ⟨(field, x), List.find?_eq_some_iff_append.mpr ⟨?_, earlier, later, hfields, ?_⟩, rfl⟩
    · simp [hx]
    · simpa using hearlier

theorem RefusedFor.not_finite {r : Reading} {field : Field} (h : r.RefusedFor field) :
    ¬ r.Finite := by
  rw [← nonFinite?_eq_none_iff, nonFinite?_eq_some_iff.mpr h]
  exact nofun

end Reading

namespace Payload

/-- The measurement `field` of the reading at `index` is not finite, and all before it are: those
of the readings before, and those before it in wire order. -/
structure Refused (rs : List Reading) (index : Nat) (field : Field) : Prop where
  here : ∃ r, rs[index]? = some r ∧ r.RefusedFor field
  before : ∀ i < index, ∀ q, rs[i]? = some q → q.Finite

theorem Refused.zero_iff {r : Reading} {rest : List Reading} {field : Field} :
    Refused (r :: rest) 0 field ↔ r.RefusedFor field := by
  constructor
  · rintro ⟨⟨q, hq, hfield⟩, -⟩
    obtain rfl : r = q := Option.some.inj hq
    exact hfield
  · intro hfield
    exact ⟨⟨r, rfl, hfield⟩, nofun⟩

theorem Refused.cons {r : Reading} {rest : List Reading} {index : Nat} {field : Field}
    (hr : r.Finite) : Refused (r :: rest) (index + 1) field ↔ Refused rest index field := by
  constructor
  · rintro ⟨here, before⟩
    exact ⟨here, fun i hi q hq => before (i + 1) (Nat.succ_lt_succ hi) q hq⟩
  · rintro ⟨here, before⟩
    refine ⟨here, fun i hi q hq => ?_⟩
    cases i with
    | zero =>
        obtain rfl : r = q := Option.some.inj hq
        exact hr
    | succ i => exact before i (Nat.lt_of_succ_lt_succ hi) q hq

/-- By induction on the readings, the index counted from `start`. -/
theorem firstNonFinite?_eq_some_iff_exists {rs : List Reading} {start index : Nat} {field : Field} :
    firstNonFinite? start rs = some (index, field) ↔
      ∃ i, index = start + i ∧ Refused rs i field := by
  induction rs generalizing start with
  | nil => exact ⟨nofun, fun ⟨_, _, ⟨_, hr, _⟩, _⟩ => by cases hr⟩
  | cons r rest ih =>
      rw [firstNonFinite?]
      cases hr : r.nonFinite? with
      | none =>
          have hfinite := (Reading.nonFinite?_eq_none_iff r).mp hr
          dsimp only
          rw [ih]
          constructor
          · rintro ⟨i, rfl, h⟩
            exact ⟨i + 1, by omega, (Refused.cons hfinite).mpr h⟩
          · rintro ⟨i, rfl, h⟩
            cases i with
            | zero => exact absurd hfinite (Refused.zero_iff.mp h).not_finite
            | succ i => exact ⟨i, by omega, (Refused.cons hfinite).mp h⟩
      | some field' =>
          have hrefused := Reading.nonFinite?_eq_some_iff.mp hr
          dsimp only
          constructor
          · intro h
            cases h
            exact ⟨0, rfl, Refused.zero_iff.mpr hrefused⟩
          · rintro ⟨i, rfl, h⟩
            cases i with
            | zero =>
                rw [Reading.nonFinite?_eq_some_iff.mpr (Refused.zero_iff.mp h),
                  Option.some.injEq] at hr
                rw [hr, Nat.add_zero]
            | succ i => exact absurd (h.before 0 i.succ_pos r rfl) hrefused.not_finite

theorem firstNonFinite?_eq_some_iff {rs : List Reading} {index : Nat} {field : Field} :
    firstNonFinite? 0 rs = some (index, field) ↔ Refused rs index field := by
  rw [firstNonFinite?_eq_some_iff_exists]
  simp only [Nat.zero_add, exists_eq_left']

/-! ### The whole list -/

/-- What comes of encoding the records. -/
structure EncodedExactly (records : List Record) : Prop where
  /-- They are written just if all measurements are finite. -/
  ok_iff : (∃ payload, encode records = .ok payload) ↔ ∀ r ∈ records, r.reading.Finite
  finite_iff : ∀ r ∈ records,
    r.reading.Finite ↔ ∀ p ∈ r.reading.fields, ∃ v, p.2.datum.value? = some v
  length_eq : ∀ payload, encode records = .ok payload → payload.length = 8 + 12 * records.length
  /-- The count comes first, then the measurements in wire order, lowest byte first. -/
  layout_eq : ∀ payload, encode records = .ok payload →
    payload = littleEndian 8 (Double.ofNat records.length).bits.toNat ++
      records.flatMap fun r => r.reading.fields.flatMap fun p => littleEndian 4 p.2.bits.toNat
  /-- The count is exact. -/
  count_eq : (Double.ofNat records.length).datum.value? = some (records.length : ℚ)
  /-- Only the readings count, and their order. -/
  eq_of_readings : ∀ records', records'.map (·.reading) = records.map (·.reading) →
    encode records' = encode records
  /-- They are refused just for the first measurement that is not finite. -/
  error_iff : ∀ e, encode records = .error e ↔
    ∃ index field, e = .nonFinite index field ∧ Refused (records.map (·.reading)) index field

theorem readingBytes_eq_flatMap (r : Reading) :
    readingBytes r = r.fields.flatMap fun p => littleEndian 4 p.2.bits.toNat := by
  simp [readingBytes, singleBytes, Reading.fields]

theorem layout_map_eq (records : List Record) :
    layout (records.map (·.reading)) = littleEndian 8 (Double.ofNat records.length).bits.toNat ++
      records.flatMap fun r => r.reading.fields.flatMap fun p => littleEndian 4 p.2.bits.toNat := by
  rw [layout, List.length_map, List.flatMap_map, countBytes, countLength]
  simp only [readingBytes_eq_flatMap]

theorem exists_encode_eq_ok_iff {records : List Record} (hn : records.length ≤ maxExactCount) :
    (∃ payload, encode records = .ok payload) ↔ ∀ r ∈ records, r.reading.Finite := by
  have hnone : firstNonFinite? 0 (records.map (·.reading)) = none ↔
      ∀ r ∈ records, r.reading.Finite :=
    firstNonFinite?_eq_none_iff.trans List.forall_mem_map
  rw [← hnone, encode_eq hn]
  cases firstNonFinite? 0 (records.map (·.reading)) with
  | none => exact ⟨fun _ => rfl, fun _ => ⟨_, rfl⟩⟩
  | some p => exact ⟨nofun, nofun⟩

theorem encode_eq_error_iff {records : List Record} (hn : records.length ≤ maxExactCount)
    (e : Error) : encode records = .error e ↔
      ∃ index field, e = .nonFinite index field ∧
        Refused (records.map (·.reading)) index field := by
  rw [encode_eq hn]
  cases hfirst : firstNonFinite? 0 (records.map (·.reading)) with
  | none =>
      refine ⟨nofun, ?_⟩
      rintro ⟨index, field, rfl, h⟩
      rw [← firstNonFinite?_eq_some_iff, hfirst] at h
      cases h
  | some p =>
      obtain ⟨index, field⟩ := p
      constructor
      · intro he
        cases he
        exact ⟨index, field, rfl, firstNonFinite?_eq_some_iff.mp hfirst⟩
      · rintro ⟨index', field', rfl, h⟩
        rw [← firstNonFinite?_eq_some_iff, hfirst] at h
        cases h
        rfl

/-- **Written as they are, or refused for the first.**  At most `2 ^ 53` records are written, all
of them and nothing but their readings, or refused for the first measurement that is not finite. -/
theorem encodedExactly {records : List Record} (hn : records.length ≤ maxExactCount) :
    EncodedExactly records where
  ok_iff := exists_encode_eq_ok_iff hn
  finite_iff r _ := by simp only [Reading.Finite, Single.isFinite_iff_exists_value?]
  length_eq payload h := length_of_encode h
  layout_eq payload h := (eq_layout_of_encode h).trans (layout_map_eq records)
  count_eq := Double.value?_ofNat hn
  eq_of_readings records' h := by rw [encode, encode, h]
  error_iff := encode_eq_error_iff hn

/-- The second record has an infinite humidity and no number for a water level. -/
theorem encodedExactly_infinite :
    let records : List Record := [⟨1, ⟨⟨0⟩, ⟨1⟩, ⟨0x7f7fffff⟩⟩, 0⟩,
      ⟨1, ⟨⟨0⟩, ⟨0xff800000⟩, ⟨0x7fc00001⟩⟩, 0⟩, ⟨2, ⟨⟨0x7f800000⟩, ⟨0⟩, ⟨0⟩⟩, 0⟩]
    records.length ≤ maxExactCount ∧ EncodedExactly records ∧
      encode records = .error (.nonFinite 1 .humidity) :=
  ⟨by decide, encodedExactly (by decide), rfl⟩

end Payload
end TelemetryExport
