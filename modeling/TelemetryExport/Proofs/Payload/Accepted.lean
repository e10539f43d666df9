import TelemetryExport.Frame.Sending
import TelemetryExport.Proofs.Binary.Values
import TelemetryExport.Proofs.Payload.RoundTrip

/-! # Which payloads are accepted

A payload of at least eight bytes is, in one way, a binary64 pattern and a body
(`eq_and_eq_of_append`).  `decode` compares the pattern with the number of readings that the body
has room for; `Counts` says the same of their values, and `counts_iff` is where the two meet.

The readings of an accepted payload are its body, cut every four bytes
(`flatMap_readingsOfBytes`), so writing them again gives the payload back, with one exception:
zero has two patterns, and only the positive one is written (`encode_eq_ok_iff`).
`decodedExactly` collects this for every payload that a frame can carry. -/

namespace TelemetryExport
namespace Payload

/-! ### Numbers -/

def doubleBytes (x : Double) : Bytes := littleEndian countLength x.bits.toNat

@[simp] theorem length_doubleBytes (x : Double) : (doubleBytes x).length = countLength :=
  length_littleEndian countLength _

theorem ofLittleEndian_doubleBytes (x : Double) :
    (⟨UInt64.ofNat (ofLittleEndian (doubleBytes x))⟩ : Double) = x := by
  unfold doubleBytes
  rw [ofLittleEndian_littleEndian countLength _ x.bits.toNat_lt, UInt64.ofNat_toNat]

theorem doubleBytes_inj {x y : Double} : doubleBytes x = doubleBytes y ↔ x = y := by
  refine ⟨fun h => ?_, fun h => by rw [h]⟩
  rw [← ofLittleEndian_doubleBytes x, h, ofLittleEndian_doubleBytes]

theorem exists_doubleBytes {bytes : Bytes} (h : bytes.length = countLength) :
    ∃ x, doubleBytes x = bytes := by
  have hlt := ofLittleEndian_lt bytes
  rw [h] at hlt
  refine ⟨⟨UInt64.ofNat (ofLittleEndian bytes)⟩, ?_⟩
  show littleEndian countLength (UInt64.ofNat (ofLittleEndian bytes)).toNat = bytes
  have hbits : (UInt64.ofNat (ofLittleEndian bytes)).toNat = ofLittleEndian bytes := by
    rw [UInt64.toNat_ofNat']
    exact Nat.mod_eq_of_lt hlt
  rw [hbits, ← h, littleEndian_ofLittleEndian]

theorem singleBytes_singleOfBytes {bytes : Bytes} (h : bytes.length = 4) :
    singleBytes (singleOfBytes bytes) = bytes := by
  have hlt := ofLittleEndian_lt bytes
  rw [h] at hlt
  show littleEndian 4 (UInt32.ofNat (ofLittleEndian bytes)).toNat = bytes
  have hbits : (UInt32.ofNat (ofLittleEndian bytes)).toNat = ofLittleEndian bytes := by
    rw [UInt32.toNat_ofNat']
    exact Nat.mod_eq_of_lt hlt
  rw [hbits, ← h, littleEndian_ofLittleEndian]

/-! ### Bodies -/

theorem readingBytes_readingOfBytes {bytes : Bytes} (h : bytes.length = recordLength) :
    readingBytes (readingOfBytes bytes) = bytes := by
  have hlength : bytes.length = 12 := h
  have ht : (bytes.take 4).length = 4 := by
    rw [List.length_take]
    omega
  have hh : ((bytes.drop 4).take 4).length = 4 := by
    rw [List.length_take, List.length_drop]
    omega
  have hw : ((bytes.drop 8).take 4).length = 4 := by
    rw [List.length_take, List.length_drop]
    omega
  have hlast : (bytes.drop 8).take 4 = bytes.drop 8 :=
    List.take_of_length_le (by rw [List.length_drop]; omega)
  show singleBytes (singleOfBytes _) ++ singleBytes (singleOfBytes _) ++
    singleBytes (singleOfBytes _) = bytes
  rw [singleBytes_singleOfBytes ht, singleBytes_singleOfBytes hh, singleBytes_singleOfBytes hw,
    hlast, List.append_assoc]
  have hdrop : bytes.drop 8 = (bytes.drop 4).drop 4 := by rw [List.drop_drop]
  rw [hdrop, List.take_append_drop, List.take_append_drop]

theorem length_readingsOfBytes (count : Nat) (bytes : Bytes) :
    (readingsOfBytes count bytes).length = count := by
  induction count generalizing bytes with
  | zero => rfl
  | succ count ih => rw [readingsOfBytes, List.length_cons, ih]

/-- The readings of a body are the body. -/
theorem flatMap_readingsOfBytes {count : Nat} {bytes : Bytes}
    (h : bytes.length = recordLength * count) :
    (readingsOfBytes count bytes).flatMap readingBytes = bytes := by
  induction count generalizing bytes with
  | zero => exact (List.length_eq_zero_iff.mp h).symm
  | succ count ih =>
      rw [Nat.mul_succ] at h
      have hfirst : (bytes.take recordLength).length = recordLength := by
        rw [List.length_take]
        omega
      have hrest : (bytes.drop recordLength).length = recordLength * count := by
        rw [List.length_drop]
        omega
      rw [readingsOfBytes, List.flatMap_cons, readingBytes_readingOfBytes hfirst, ih hrest,
        List.take_append_drop]

/-! ### Counts -/

/-- The body is cut into readings without a rest, and the number of them is the count. -/
structure Counts (count : Double) (body : Bytes) : Prop where
  whole : recordLength ∣ body.length
  value : count.datum.value? = some ((body.length / recordLength : Nat) : ℚ)

theorem length_div_le {body : Bytes} (h : body.length < Frame.lengthLimit) :
    body.length / recordLength ≤ maxExactCount :=
  (Nat.div_le_self _ _).trans (h.le.trans (by decide))

theorem counts_iff {count : Double} {body : Bytes} (h : body.length < Frame.lengthLimit) :
    Counts count body ↔
      count.equals (.ofNat (body.length / recordLength)) = true ∧
        body.length % recordLength = 0 := by
  rw [Double.equals_iff (Double.value?_ofNat (length_div_le h))]
  exact ⟨fun hc => ⟨hc.value, Nat.mod_eq_zero_of_dvd hc.whole⟩,
    fun hc => ⟨Nat.dvd_of_mod_eq_zero hc.2, hc.1⟩⟩

/-- A payload is a pattern and a body in one way. -/
theorem eq_and_eq_of_append {count count' : Double} {body body' : Bytes}
    (h : doubleBytes count ++ body = doubleBytes count' ++ body') :
    count = count' ∧ body = body' := by
  obtain ⟨hcount, hbody⟩ := List.append_inj h (by simp)
  exact ⟨doubleBytes_inj.mp hcount, hbody⟩

theorem exists_append {payload : Bytes} (h : countLength ≤ payload.length) :
    ∃ count body, payload = doubleBytes count ++ body := by
  have hlength : (payload.take countLength).length = countLength := by
    rw [List.length_take, Nat.min_eq_left h]
  obtain ⟨count, hcount⟩ := exists_doubleBytes hlength
  exact ⟨count, payload.drop countLength, by rw [hcount, List.take_append_drop]⟩

theorem decode_append {count : Double} {body : Bytes} (h : body.length < Frame.lengthLimit) :
    decode (doubleBytes count ++ body) =
      if count.equals (.ofNat (body.length / recordLength)) = true ∧
          body.length % recordLength = 0 then
        .ok (readingsOfBytes (body.length / recordLength) body)
      else .error (.malformed count (countLength + body.length)) := by
  have htake : (doubleBytes count ++ body).take countLength = doubleBytes count :=
    List.take_left' (length_doubleBytes count)
  have hdrop : (doubleBytes count ++ body).drop countLength = body :=
    List.drop_left' (length_doubleBytes count)
  have hlength : (doubleBytes count ++ body).length = countLength + body.length := by
    rw [List.length_append, length_doubleBytes]
  unfold decode
  simp only [hlength, htake, hdrop, ofLittleEndian_doubleBytes]
  rw [if_neg (by omega)]
  simp only [refused_iff (length_div_le h), ite_not]

theorem decode_eq_ok {count : Double} {body : Bytes} (h : body.length < Frame.lengthLimit)
    (hc : Counts count body) :
    decode (doubleBytes count ++ body) =
      .ok (readingsOfBytes (body.length / recordLength) body) := by
  rw [decode_append h, if_pos ((counts_iff h).mp hc)]

theorem decode_eq_malformed {count : Double} {body : Bytes} (h : body.length < Frame.lengthLimit)
    (hc : ¬ Counts count body) :
    decode (doubleBytes count ++ body) =
      .error (.malformed count (countLength + body.length)) := by
  rw [decode_append h, if_neg fun hif => hc ((counts_iff h).mpr hif)]

theorem decode_of_short {payload : Bytes} (h : payload.length < countLength) :
    decode payload = .error (.truncated payload.length) := by
  unfold decode
  rw [if_pos h]

/-! ### Writing again -/

/-- The one accepted payload that is never written: no readings, and the count a negative zero. -/
def negativeZero : Bytes := [0, 0, 0, 0, 0, 0, 0, 0x80]

theorem negativeZero_eq : negativeZero = doubleBytes ⟨0x8000000000000000⟩ ++ [] := by decide

/-- The count of an accepted payload is the pattern that is written, unless it is a negative
zero. -/
theorem Counts.eq_ofNat_iff {count : Double} {body : Bytes} (hc : Counts count body)
    (h : body.length < Frame.lengthLimit) :
    count = .ofNat (body.length / recordLength) ↔ doubleBytes count ++ body ≠ negativeZero := by
  have hvalue := Double.value?_ofNat (length_div_le h)
  rw [negativeZero_eq]
  constructor
  · rintro rfl heq
    obtain ⟨hcount, rfl⟩ := eq_and_eq_of_append heq
    revert hcount
    decide
  · intro hne
    by_cases hzero : body.length / recordLength = 0
    · have hbody : body = [] := by
        rw [← List.length_eq_zero_iff, ← Nat.div_mul_cancel hc.whole, hzero, Nat.zero_mul]
      have hcount := hc.value
      rw [hzero] at hcount ⊢
      rcases Double.bits_of_value?_eq_zero hcount with hbits | hbits
      · cases count
        exact congrArg Double.mk (hbits.trans (by decide))
      · refine absurd ?_ hne
        cases count
        exact congrArg₂ (fun bits body => doubleBytes ⟨bits⟩ ++ body) hbits hbody
    · exact Double.eq_of_value? hc.value hvalue (by exact_mod_cast hzero)

/-- Finite readings that were accepted are written as the payload they were read from. -/
theorem encode_eq_ok_iff {count : Double} {body : Bytes} (hc : Counts count body)
    (h : body.length < Frame.lengthLimit) {records : List Record}
    (hrecords : records.map (·.reading) = readingsOfBytes (body.length / recordLength) body)
    (hfinite : ∀ r ∈ records, r.reading.Finite) :
    encode records = .ok (doubleBytes count ++ body) ↔
      doubleBytes count ++ body ≠ negativeZero := by
  have hlength : records.length = body.length / recordLength := by
    rw [← length_readingsOfBytes (body.length / recordLength) body, ← hrecords, List.length_map]
  have hsmall : records.length ≤ maxExactCount := by
    rw [hlength]
    exact length_div_le h
  have hlayout : layout (records.map (·.reading)) =
      doubleBytes (.ofNat (body.length / recordLength)) ++ body := by
    rw [layout, hrecords, length_readingsOfBytes,
      flatMap_readingsOfBytes (Nat.mul_div_cancel' hc.whole).symm]
    rfl
  rw [encode_eq_ok hfinite hsmall, hlayout, Except.ok.injEq, List.append_cancel_right_eq,
    doubleBytes_inj, eq_comm, hc.eq_ofNat_iff h]

/-! ### The format -/

/-- Reading accepts a payload exactly when it has the format, and writing undoes it. -/
structure DecodedExactly (payload : Bytes) : Prop where
  truncated_iff : decode payload = .error (.truncated payload.length) ↔ payload.length < countLength
  /-- A longer payload is a pattern and a body in one way. -/
  split : countLength ≤ payload.length →
    ∃! p : Double × Bytes, payload = doubleBytes p.1 ++ p.2
  ok_iff : ∀ count body, payload = doubleBytes count ++ body →
    ((∃ readings, decode payload = .ok readings) ↔ Counts count body)
  malformed_iff : ∀ count body, payload = doubleBytes count ++ body →
    (decode payload = .error (.malformed count payload.length) ↔ ¬ Counts count body)
  /-- The readings are the body's bytes in their order, whatever numbers these are. -/
  readings : ∀ readings, decode payload = .ok readings →
    readings.length = (payload.length - countLength) / recordLength ∧
      readings.flatMap readingBytes = payload.drop countLength
  /-- Written again, finite readings give the payload back. -/
  encode_iff : ∀ records : List Record, decode payload = .ok (records.map (·.reading)) →
    (∀ r ∈ records, r.reading.Finite) →
      (encode records = .ok payload ↔ payload ≠ negativeZero)

theorem decodedExactly_of_short {payload : Bytes} (h : payload.length < countLength) :
    DecodedExactly payload := by
  have hdecode := decode_of_short h
  have hnone : ∀ count body, payload ≠ doubleBytes count ++ body := by
    rintro count body rfl
    rw [List.length_append, length_doubleBytes] at h
    omega
  refine ⟨iff_of_true hdecode h, fun hlong => ?_, fun count body heq => ?_,
    fun count body heq => ?_, fun readings hok => ?_, fun records hok => ?_⟩
  · exact absurd h (Nat.not_lt.mpr hlong)
  · exact absurd heq (hnone count body)
  · exact absurd heq (hnone count body)
  · rw [hdecode] at hok
    cases hok
  · rw [hdecode] at hok
    cases hok

theorem decodedExactly_append {count : Double} {body : Bytes}
    (h : body.length < Frame.lengthLimit) : DecodedExactly (doubleBytes count ++ body) := by
  have hlength : (doubleBytes count ++ body).length = countLength + body.length := by
    rw [List.length_append, length_doubleBytes]
  have hsplit : ∃! p : Double × Bytes, doubleBytes count ++ body = doubleBytes p.1 ++ p.2 := by
    refine ⟨(count, body), rfl, ?_⟩
    rintro ⟨count', body'⟩ heq
    obtain ⟨rfl, rfl⟩ := eq_and_eq_of_append heq
    rfl
  by_cases hc : Counts count body
  · have hdecode := decode_eq_ok h hc
    refine ⟨?_, fun _ => hsplit, fun count' body' heq => ?_, fun count' body' heq => ?_,
      fun readings hok => ?_, fun records hok hfinite => ?_⟩
    · rw [hdecode, hlength]
      exact iff_of_false nofun (by omega)
    · obtain ⟨rfl, rfl⟩ := eq_and_eq_of_append heq
      exact iff_of_true ⟨_, hdecode⟩ hc
    · obtain ⟨rfl, rfl⟩ := eq_and_eq_of_append heq
      rw [hdecode]
      exact iff_of_false nofun (not_not_intro hc)
    · rw [hdecode] at hok
      obtain rfl := Except.ok.inj hok
      rw [length_readingsOfBytes, hlength, Nat.add_sub_cancel_left,
        flatMap_readingsOfBytes (Nat.mul_div_cancel' hc.whole).symm]
      exact ⟨rfl, (List.drop_left' (length_doubleBytes count)).symm⟩
    · rw [hdecode] at hok
      exact encode_eq_ok_iff hc h (Except.ok.inj hok).symm hfinite
  · have hdecode := decode_eq_malformed h hc
    rw [← hlength] at hdecode
    refine ⟨?_, fun _ => hsplit, fun count' body' heq => ?_, fun count' body' heq => ?_,
      fun readings hok => ?_, fun records hok => ?_⟩
    · rw [hdecode, hlength]
      exact iff_of_false nofun (by omega)
    · obtain ⟨rfl, rfl⟩ := eq_and_eq_of_append heq
      rw [hdecode]
      exact iff_of_false nofun hc
    · obtain ⟨rfl, rfl⟩ := eq_and_eq_of_append heq
      exact iff_of_true hdecode hc
    · rw [hdecode] at hok
      cases hok
    · rw [hdecode] at hok
      cases hok

/-- **The format is accepted exactly.**  Of the payloads that a frame can carry, those are read
whose count is numerically the number of readings in their body. -/
theorem decodedExactly {payload : Bytes} (h : payload.length < Frame.lengthLimit) :
    DecodedExactly payload := by
  rcases Nat.lt_or_ge payload.length countLength with hshort | hlong
  · exact decodedExactly_of_short hshort
  · obtain ⟨count, body, rfl⟩ := exists_append hlong
    rw [List.length_append] at h
    exact decodedExactly_append (by omega)

/-- The exception occurs: it is read as no readings at all, and these are written otherwise. -/
theorem decodedExactly_negativeZero :
    negativeZero.length < Frame.lengthLimit ∧ decode negativeZero = .ok [] ∧
      encode [] ≠ .ok negativeZero ∧ DecodedExactly negativeZero := by
  have hlength : negativeZero.length < Frame.lengthLimit := by decide
  have hdecode : decode negativeZero = .ok [] := by decide +kernel
  have hexact := decodedExactly hlength
  refine ⟨hlength, hdecode, fun hencode => ?_, hexact⟩
  exact (hexact.encode_iff [] hdecode nofun).mp hencode rfl

end Payload
end TelemetryExport
