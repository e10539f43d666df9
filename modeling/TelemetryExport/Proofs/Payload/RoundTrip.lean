import TelemetryExport.Payload
import TelemetryExport.Proofs.Binary.Values

/-! # Payloads read back

A payload of `n` records has `size n` bytes.  A list of records can be written exactly when all
measurements are finite and the count is one that a binary64 number carries exactly
(`encode_eq_ok`), and what was written reads back as the readings themselves, bit for bit
(`decode_encode`). -/

namespace TelemetryExport
namespace Payload

/-- The length of a payload of `count` records. -/
def size (count : Nat) : Nat := countLength + recordLength * count

theorem size_eq (count : Nat) : size count = 8 + 12 * count := rfl

/-! ### Numbers -/

@[simp] theorem length_singleBytes (x : Single) : (singleBytes x).length = 4 :=
  length_littleEndian 4 _

@[simp] theorem length_readingBytes (r : Reading) : (readingBytes r).length = recordLength := by
  simp [readingBytes, recordLength]

@[simp] theorem length_countBytes (n : Nat) : (countBytes n).length = countLength :=
  length_littleEndian countLength _

theorem singleOfBytes_singleBytes (x : Single) : singleOfBytes (singleBytes x) = x := by
  unfold singleOfBytes singleBytes
  rw [ofLittleEndian_littleEndian 4 _ x.bits.toNat_lt, UInt32.ofNat_toNat]

theorem ofLittleEndian_countBytes (n : Nat) :
    (⟨UInt64.ofNat (ofLittleEndian (countBytes n))⟩ : Double) = .ofNat n := by
  unfold countBytes
  rw [ofLittleEndian_littleEndian countLength _ (Double.ofNat n).bits.toNat_lt, UInt64.ofNat_toNat]

/-- That a count has no fraction and is not below zero need not be checked: it is no other number
than the one it is compared with. -/
theorem refused_iff {count : Double} {expected rest : Nat} (h : expected ≤ maxExactCount) :
    (count.hasFraction = true ∨ count.isBelowZero = true ∨
        (!count.equals (.ofNat expected)) = true ∨ rest ≠ 0) ↔
      ¬ (count.equals (.ofNat expected) = true ∧ rest = 0) := by
  by_cases hequals : count.equals (.ofNat expected) = true
  · have hvalue := (Double.equals_iff (Double.value?_ofNat h)).mp hequals
    simp [hequals, Double.hasFraction_eq_false hvalue, Double.isBelowZero_eq_false hvalue]
  · simp [hequals]

/-- A count in the exact range is a number, so it is equal to itself. -/
theorem equals_ofNat {n : Nat} (h : n < maxExactCount) :
    (Double.ofNat n).equals (.ofNat n) = true := by
  simp [Double.equals, Double.isNaN_eq_false (Double.value?_ofNat h.le)]

/-! ### Readings -/

theorem readingOfBytes_readingBytes (r : Reading) : readingOfBytes (readingBytes r) = r := by
  have ht : (readingBytes r).take 4 = singleBytes r.temperature := by
    rw [readingBytes, List.append_assoc]
    exact List.take_left' (length_singleBytes _)
  have hh : ((readingBytes r).drop 4).take 4 = singleBytes r.humidity := by
    rw [readingBytes, List.append_assoc, List.drop_left' (length_singleBytes _)]
    exact List.take_left' (length_singleBytes _)
  have hw : ((readingBytes r).drop 8).take 4 = singleBytes r.waterLevel := by
    rw [readingBytes, List.drop_left' (by simp)]
    exact List.take_of_length_le (by simp)
  rw [readingOfBytes, ht, hh, hw]
  simp only [singleOfBytes_singleBytes]

theorem readingsOfBytes_flatMap (rs : List Reading) :
    readingsOfBytes rs.length (rs.flatMap readingBytes) = rs := by
  induction rs with
  | nil => rfl
  | cons r rest ih =>
      rw [List.flatMap_cons, List.length_cons, readingsOfBytes,
        List.take_left' (length_readingBytes r), List.drop_left' (length_readingBytes r),
        readingOfBytes_readingBytes, ih]

theorem length_flatMap_readingBytes (rs : List Reading) :
    (rs.flatMap readingBytes).length = recordLength * rs.length := by
  induction rs with
  | nil => rfl
  | cons r rest ih =>
      rw [List.flatMap_cons, List.length_append, ih, length_readingBytes, List.length_cons,
        Nat.mul_succ, Nat.add_comm]

/-! ### Payloads -/

theorem firstNonFinite?_eq_none_iff {rs : List Reading} {index : Nat} :
    firstNonFinite? index rs = none ↔ ∀ r ∈ rs, r.Finite := by
  induction rs generalizing index with
  | nil => exact ⟨fun _ => nofun, fun _ => rfl⟩
  | cons r rest ih =>
      rw [firstNonFinite?, List.forall_mem_cons, ← Reading.nonFinite?_eq_none_iff]
      cases r.nonFinite? with
      | none => exact ih.trans (and_iff_right rfl).symm
      | some field => exact ⟨nofun, fun h => nomatch h.1⟩

/-- The bytes of a payload, whatever its readings are. -/
def layout (rs : List Reading) : Bytes := countBytes rs.length ++ rs.flatMap readingBytes

theorem length_layout (rs : List Reading) : (layout rs).length = size rs.length := by
  rw [layout, List.length_append, length_countBytes, length_flatMap_readingBytes, size]

theorem length_layout_map (records : List Record) :
    (layout (records.map (·.reading))).length = size records.length := by
  rw [length_layout, List.length_map]

/-- A list that is not too long is written, or refused for a measurement. -/
theorem encode_eq {records : List Record} (hn : records.length ≤ maxExactCount) :
    encode records = match firstNonFinite? 0 (records.map (·.reading)) with
      | some (index, field) => .error (.nonFinite index field)
      | none => .ok (layout (records.map (·.reading))) := by
  have hlength : ¬ maxExactCount < (records.map (·.reading)).length := by
    rw [List.length_map]
    omega
  rw [encode, encodeReadings, if_neg hlength]
  rfl

theorem encode_eq_ok {records : List Record} (hf : ∀ r ∈ records, r.reading.Finite)
    (hn : records.length ≤ maxExactCount) :
    encode records = .ok (layout (records.map (·.reading))) := by
  rw [encode_eq hn, firstNonFinite?_eq_none_iff.mpr (List.forall_mem_map.mpr hf)]

/-- Whatever was written has the one layout. -/
theorem eq_layout_of_encode {records : List Record} {payload : Bytes}
    (h : encode records = .ok payload) : payload = layout (records.map (·.reading)) := by
  unfold encode encodeReadings at h
  split_ifs at h
  split at h
  · cases h
  · exact (Except.ok.inj h).symm

theorem length_of_encode {records : List Record} {payload : Bytes}
    (h : encode records = .ok payload) : payload.length = size records.length := by
  rw [eq_layout_of_encode h, length_layout_map]

theorem decode_layout {rs : List Reading} (h : rs.length < maxExactCount) :
    decode (layout rs) = .ok rs := by
  have htake : (layout rs).take countLength = countBytes rs.length :=
    List.take_left' (length_countBytes _)
  have hdrop : (layout rs).drop countLength = rs.flatMap readingBytes :=
    List.drop_left' (length_countBytes _)
  have hdiv : recordLength * rs.length / recordLength = rs.length :=
    Nat.mul_div_cancel_left _ (by decide)
  have hmod : recordLength * rs.length % recordLength = 0 := Nat.mul_mod_right _ _
  have hlen : ¬ (layout rs).length < countLength := by
    rw [length_layout, size]
    omega
  unfold decode
  simp only [if_neg hlen, htake, hdrop, ofLittleEndian_countBytes, length_flatMap_readingBytes,
    hdiv, hmod, readingsOfBytes_flatMap]
  rw [if_neg fun hrefused => (refused_iff h.le).mp hrefused ⟨equals_ofNat h, rfl⟩]

/-- What was written reads back, every measurement bit for bit. -/
theorem decode_encode {records : List Record} {payload : Bytes}
    (h : encode records = .ok payload) (hn : records.length < maxExactCount) :
    decode payload = .ok (records.map (·.reading)) := by
  rw [eq_layout_of_encode h]
  exact decode_layout (by rwa [List.length_map])

end Payload
end TelemetryExport
