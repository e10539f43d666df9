import TelemetryExport.Proofs.Frame.Stream
import TelemetryExport.Proofs.Payload.Accepted

/-! # Damaged frames

A frame says twice how long it is: its length counts bytes and is written highest byte first, its
payload's count is a binary64 number of readings.  `Damage` is what may happen to one of the two,
or to the end of the frame.  A frame that is cut off is never complete, for its length is read first
and says so (`receiveReadings_ended`).  A payload of another length or with another count is
refused, because its body does not have room for just as many readings as it counts
(`Payload.decode_take_layout`, `Payload.decode_recounted`).  Only zero has two patterns, and no
readings are no readings with either.

`Damage.verdict` is what comes of each damage, and `damageDetected` says that no other readings
than the frame's own ever do. -/

namespace TelemetryExport
namespace Payload

variable {rs : List Reading}

/-- The count that eight bytes are. -/
def countOfBytes (bytes : Bytes) : Double := ⟨UInt64.ofNat (ofLittleEndian bytes)⟩

/-- The beginning of a payload has its count, and not as many readings. -/
theorem decode_take_layout (hsize : size rs.length < Frame.lengthLimit) {length : Nat}
    (hcount : countLength ≤ length) (hlt : length < size rs.length) :
    decode ((layout rs).take length) = .error (.malformed (.ofNat rs.length) length) := by
  obtain ⟨kept, rfl⟩ := Nat.exists_eq_add_of_le hcount
  have hkept : kept < recordLength * rs.length := Nat.lt_of_add_lt_add_left hlt
  have htake : (layout rs).take (countLength + kept) =
      doubleBytes (.ofNat rs.length) ++ (rs.flatMap readingBytes).take kept := by
    rw [layout, ← length_countBytes rs.length, List.take_length_add_append]
    rfl
  have hbody : ((rs.flatMap readingBytes).take kept).length = kept := by
    rw [List.length_take, length_flatMap_readingBytes, Nat.min_eq_left hkept.le]
  have hwrong : ¬ Counts (.ofNat rs.length) ((rs.flatMap readingBytes).take kept) := by
    intro hc
    have hvalue := hc.value
    rw [Double.value?_ofNat (Frame.lt_maxExactCount_of_size_lt hsize).le, Option.some.injEq,
      Nat.cast_inj] at hvalue
    have hwhole := Nat.mul_div_cancel' hc.whole
    rw [← hvalue, hbody] at hwhole
    exact hkept.ne hwhole.symm
  rw [htake, decode_eq_malformed (by omega) hwrong, hbody]

theorem decode_negativeZero : decode negativeZero = .ok [] := by decide +kernel

/-- Another count fits the readings only if both are zero. -/
theorem decode_recounted (hsize : size rs.length < Frame.lengthLimit) {head : Bytes}
    (hlength : head.length = countLength) (hhead : head ≠ countBytes rs.length) :
    decode (head ++ rs.flatMap readingBytes) =
      if rs = [] ∧ head = negativeZero then .ok []
      else .error (.malformed (countOfBytes head) (size rs.length)) := by
  have hbody : (rs.flatMap readingBytes).length < Frame.lengthLimit := by
    rw [length_flatMap_readingBytes]
    rw [size] at hsize
    omega
  split_ifs with hzero
  · obtain ⟨rfl, rfl⟩ := hzero
    exact decode_negativeZero
  · obtain ⟨count, rfl⟩ := exists_doubleBytes hlength
    have hwrong : ¬ Counts count (rs.flatMap readingBytes) := by
      intro hc
      have hdiv : (rs.flatMap readingBytes).length / recordLength = rs.length := by
        rw [length_flatMap_readingBytes, Nat.mul_div_cancel_left _ (by decide)]
      have hne : count ≠ .ofNat ((rs.flatMap readingBytes).length / recordLength) := by
        rw [hdiv]
        rintro rfl
        exact hhead rfl
      have heq := not_not.mp (mt (hc.eq_ofNat_iff hbody).mpr hne)
      rw [negativeZero_eq] at heq
      obtain ⟨rfl, hnil⟩ := eq_and_eq_of_append heq
      refine hzero ⟨?_, by rw [negativeZero_eq, List.append_nil]⟩
      rw [hnil] at hdiv
      exact List.length_eq_zero_iff.mp hdiv.symm
    rw [decode_eq_malformed hbody hwrong, length_flatMap_readingBytes, countOfBytes,
      ofLittleEndian_doubleBytes, size]

end Payload

namespace Frame

open Payload (countLength layout)

/-! ### The readings of a frame -/

/-- Why there are no readings. -/
inductive Loss where
  /-- The stream ended before a length had come. -/
  | absent
  | broken (cause : IoError)
  | refused (cause : Payload.Error)
deriving DecidableEq, Repr

/-- Receives one frame and decodes its payload. -/
def receiveReadings (limit : Nat) (s : Source) : Except Loss (List Reading) × Source :=
  match receive limit s with
  | (.error cause, s) => (.error (.broken cause), s)
  | (.ok none, s) => (.error .absent, s)
  | (.ok (some payload), s) => ((Payload.decode payload).mapError .refused, s)

variable {limit : Nat} {s : Source}

theorem receiveReadings_frame {payload rest : Bytes} (h : s.unread = ofPayload payload ++ rest)
    (hp : payload.length < lengthLimit) (hl : payload.length ≤ limit) :
    (receiveReadings limit s).1 = (Payload.decode payload).mapError .refused ∧
      (receiveReadings limit s).2.unread = rest := by
  obtain ⟨t, ht, hrest, -⟩ := receive_frame h hp hl
  unfold receiveReadings
  rw [ht]
  exact ⟨rfl, hrest⟩

theorem receiveReadings_tooLarge {length : Nat} {rest : Bytes}
    (h : s.unread = bigEndian lengthWidth length ++ rest) (hp : length < lengthLimit)
    (hl : limit < length) :
    (receiveReadings limit s).1 = .error (.broken (lengthTooLarge length limit)) := by
  obtain ⟨t, ht, -, -⟩ := receive_tooLarge h hp hl
  unfold receiveReadings
  rw [ht]

theorem receiveReadings_short (h : s.unread.length < lengthWidth) (hf : s.failure = none) :
    (receiveReadings limit s).1 = .error .absent := by
  obtain ⟨t, ht, -, -⟩ := receive_of_short limit h hf
  unfold receiveReadings
  rw [ht]

theorem receiveReadings_ended {length : Nat} {rest : Bytes}
    (h : s.unread = bigEndian lengthWidth length ++ rest) (hp : length < lengthLimit)
    (hl : length ≤ limit) (hrest : rest.length < length) (hf : s.failure = none) :
    (receiveReadings limit s).1 = .error (.broken .earlyEof) := by
  obtain ⟨t, ht, -, -⟩ := receive_of_cut h hp hl hrest hf
  unfold receiveReadings
  rw [ht]

/-! ### Damage -/

theorem take_ofPayload (payload : Bytes) :
    (ofPayload payload).take lengthWidth = bigEndian lengthWidth payload.length :=
  List.take_left' (length_bigEndian _ _)

theorem drop_ofPayload (payload : Bytes) : (ofPayload payload).drop lengthWidth = payload :=
  List.drop_left' (length_bigEndian _ _)

inductive Damage where
  /-- Only so many bytes arrive. -/
  | cut (kept : Nat)
  /-- Other bytes in place of the frame's length. -/
  | length (head : Bytes)
  /-- Other bytes in place of the payload's count. -/
  | count (head : Bytes)
  /-- Further bytes after the frame. -/
  | longer (rest : Bytes)
deriving DecidableEq, Repr

namespace Damage

/-- The frame is changed, and where the damage says. -/
def Affects (frame : Bytes) : Damage → Prop
  | .cut kept => kept < frame.length
  | .length head => head.length = lengthWidth ∧ head ≠ frame.take lengthWidth
  | .count head => head.length = countLength ∧ head ≠ (frame.drop lengthWidth).take countLength
  | .longer _ => True

/-- The bytes of the damaged frame. -/
def apply (frame : Bytes) : Damage → Bytes
  | .cut kept => frame.take kept
  | .length head => head ++ frame.drop lengthWidth
  | .count head => frame.take lengthWidth ++ head ++ frame.drop (lengthWidth + countLength)
  | .longer rest => frame ++ rest

/-- What is wrong when the payload of so many readings follows a length that is not its own. -/
def misannounced (limit count length : Nat) : Loss :=
  if limit < length then .broken (lengthTooLarge length limit)
  else if Payload.size count < length then .broken .earlyEof
  else if length < countLength then .refused (.truncated length)
  else .refused (.malformed (.ofNat count) length)

/-- What comes of the damaged frame of some readings. -/
def verdict (limit : Nat) (readings : List Reading) : Damage → Except Loss (List Reading)
  | .cut kept => .error (if kept < lengthWidth then .absent else .broken .earlyEof)
  | .length head => .error (misannounced limit readings.length (ofBigEndian head))
  | .count head =>
    if readings = [] ∧ head = Payload.negativeZero then .ok []
    else .error (.refused
      (.malformed (Payload.countOfBytes head) (Payload.size readings.length)))
  | .longer _ => .ok readings

/-- No verdict has other readings. -/
theorem eq_of_verdict_eq_ok {readings understood : List Reading} {d : Damage}
    (h : d.verdict limit readings = .ok understood) : understood = readings := by
  cases d with
  | cut kept => cases h
  | length head => cases h
  | count head =>
      simp only [verdict] at h
      split_ifs at h with hzero
      rw [← Except.ok.inj h, hzero.1]
  | longer rest => exact (Except.ok.inj h).symm

end Damage

/-! ### Every damage has its verdict -/

section Verdicts

variable {readings : List Reading}

theorem receiveReadings_of_cut (hsize : Payload.size readings.length < lengthLimit)
    (hlimit : Payload.size readings.length ≤ limit) {kept : Nat}
    (hkept : (Damage.cut kept).Affects (ofPayload (layout readings)))
    (hs : s.unread = (Damage.cut kept).apply (ofPayload (layout readings)))
    (hf : s.failure = none) :
    (receiveReadings limit s).1 = (Damage.cut kept).verdict limit readings := by
  simp only [Damage.Affects, Damage.apply, Damage.verdict] at hkept hs ⊢
  have hlayout := Payload.length_layout readings
  split_ifs with hshort
  · refine receiveReadings_short ?_ hf
    rw [hs, List.length_take]
    omega
  · obtain ⟨kept, rfl⟩ := Nat.exists_eq_add_of_le (Nat.not_lt.mp hshort)
    rw [ofPayload, List.length_append, length_bigEndian] at hkept
    have htake : s.unread = bigEndian lengthWidth (layout readings).length ++
        (layout readings).take kept := by
      rw [hs, ofPayload]
      nth_rewrite 1 [← length_bigEndian lengthWidth (layout readings).length]
      rw [List.take_length_add_append]
    refine receiveReadings_ended htake (by omega) (by omega) ?_ hf
    rw [List.length_take]
    omega

theorem receiveReadings_of_length (hsize : Payload.size readings.length < lengthLimit)
    {head : Bytes} (hhead : (Damage.length head).Affects (ofPayload (layout readings)))
    (hs : s.unread = (Damage.length head).apply (ofPayload (layout readings)))
    (hf : s.failure = none) :
    (receiveReadings limit s).1 = (Damage.length head).verdict limit readings := by
  simp only [Damage.Affects, Damage.apply, Damage.verdict] at hhead hs ⊢
  have hlayout := Payload.length_layout readings
  rw [take_ofPayload, hlayout] at hhead
  rw [drop_ofPayload] at hs
  obtain ⟨heq, hlt⟩ := head_eq_bigEndian hhead.1
  generalize ofBigEndian head = length at heq hlt ⊢
  subst heq
  have hne : length ≠ Payload.size readings.length := by
    rintro rfl
    exact hhead.2 rfl
  have hlength : length ≤ (layout readings).length →
      ((layout readings).take length).length = length := fun hle => by
    rw [List.length_take, Nat.min_eq_left hle]
  unfold Damage.misannounced
  split_ifs with hlarge hlong hshort
  · exact receiveReadings_tooLarge hs hlt hlarge
  · exact receiveReadings_ended hs hlt (by omega) (by omega) hf
  -- What is left announces a beginning of the payload.
  · rw [head_append_eq (by omega)] at hs
    specialize hlength (by omega)
    rw [(receiveReadings_frame hs (by omega) (by omega)).1,
      Payload.decode_of_short (by omega), hlength]
    rfl
  · rw [head_append_eq (by omega)] at hs
    specialize hlength (by omega)
    rw [(receiveReadings_frame hs (by omega) (by omega)).1,
      Payload.decode_take_layout hsize (by omega) (by omega)]
    rfl

theorem receiveReadings_of_count (hsize : Payload.size readings.length < lengthLimit)
    (hlimit : Payload.size readings.length ≤ limit) {head : Bytes}
    (hhead : (Damage.count head).Affects (ofPayload (layout readings)))
    (hs : s.unread = (Damage.count head).apply (ofPayload (layout readings))) :
    (receiveReadings limit s).1 = (Damage.count head).verdict limit readings := by
  simp only [Damage.Affects, Damage.apply, Damage.verdict] at hhead hs ⊢
  have hlength : (head ++ readings.flatMap Payload.readingBytes).length =
      Payload.size readings.length := by
    rw [List.length_append, hhead.1, Payload.length_flatMap_readingBytes, Payload.size]
  have hcount : (layout readings).take countLength = Payload.countBytes readings.length :=
    List.take_left' (Payload.length_countBytes _)
  have hbody : (layout readings).drop countLength = readings.flatMap Payload.readingBytes :=
    List.drop_left' (Payload.length_countBytes _)
  have hframe : s.unread =
      ofPayload (head ++ readings.flatMap Payload.readingBytes) ++ [] := by
    rw [hs, ← List.drop_drop, drop_ofPayload, hbody, take_ofPayload, Payload.length_layout,
      ← hlength, List.append_nil, List.append_assoc, ofPayload]
  rw [drop_ofPayload, hcount] at hhead
  rw [(receiveReadings_frame hframe (by omega) (by omega)).1,
    Payload.decode_recounted hsize hhead.1 hhead.2]
  split_ifs <;> rfl

theorem receiveReadings_of_longer (hsize : Payload.size readings.length < lengthLimit)
    (hlimit : Payload.size readings.length ≤ limit) {rest : Bytes}
    (hs : s.unread = (Damage.longer rest).apply (ofPayload (layout readings))) :
    (receiveReadings limit s).1 = (Damage.longer rest).verdict limit readings ∧
      (receiveReadings limit s).2.unread = rest := by
  rw [← Payload.length_layout] at hlimit
  obtain ⟨hfirst, hrest⟩ :=
    receiveReadings_frame hs (by rwa [Payload.length_layout]) hlimit
  refine ⟨?_, hrest⟩
  rw [hfirst, Payload.decode_layout (lt_maxExactCount_of_size_lt hsize)]
  rfl

end Verdicts

/-! ### No damage has other readings -/

/-- What is received of a frame of some readings when it is damaged. -/
structure DamageDetected (limit : Nat) (readings : List Reading) (frame : Bytes) : Prop where
  verdict : ∀ d : Damage, d.Affects frame → ∀ s : Source, s.unread = d.apply frame →
    s.failure = none → (receiveReadings limit s).1 = d.verdict limit readings
  sound : ∀ d : Damage, d.Affects frame → ∀ s : Source, s.unread = d.apply frame →
    s.failure = none → ∀ understood, (receiveReadings limit s).1 = .ok understood →
      understood = readings
  /-- What follows the frame is left unread, byte for byte. -/
  left : ∀ (rest : Bytes) (s : Source), s.unread = (Damage.longer rest).apply frame →
    (receiveReadings limit s).2.unread = rest

theorem damageDetected_layout {limit : Nat} {readings : List Reading}
    (hsize : Payload.size readings.length < lengthLimit)
    (hlimit : Payload.size readings.length ≤ limit) :
    DamageDetected limit readings (ofPayload (layout readings)) := by
  have hverdict : ∀ d : Damage, d.Affects (ofPayload (layout readings)) → ∀ s : Source,
      s.unread = d.apply (ofPayload (layout readings)) → s.failure = none →
        (receiveReadings limit s).1 = d.verdict limit readings := by
    intro d hd s hs hf
    cases d with
    | cut kept => exact receiveReadings_of_cut hsize hlimit hd hs hf
    | length head => exact receiveReadings_of_length hsize hd hs hf
    | count head => exact receiveReadings_of_count hsize hlimit hd hs
    | longer rest => exact (receiveReadings_of_longer hsize hlimit hs).1
  refine ⟨hverdict, fun d hd s hs hf understood hok => ?_, fun rest s hs => ?_⟩
  · rw [hverdict d hd s hs hf] at hok
    exact Damage.eq_of_verdict_eq_ok hok
  · exact (receiveReadings_of_longer hsize hlimit hs).2

/-- **Damage to a frame is detected.**  Finite records whose payload fits a frame and the
receiver's limit are encoded and offered to a sink as one frame.  However the frame is cut off,
whatever takes the place of its length or of its count, and whatever follows it, what is received
is either the readings of the records or an error that tells what is wrong. -/
theorem damageDetected {limit : Nat} {records : List Record}
    (hfinite : ∀ r ∈ records, r.reading.Finite)
    (hsize : Payload.size records.length < lengthLimit)
    (hlimit : Payload.size records.length ≤ limit) :
    ∃ payload frame, Payload.encode records = .ok payload ∧
      Sending.start payload = .writing [] frame ∧ frame.length = 4 + 8 + 12 * records.length ∧
      DamageDetected limit (records.map (·.reading)) frame := by
  have hencode := Payload.encode_eq_ok hfinite (lt_maxExactCount_of_size_lt hsize).le
  have hlength := Payload.length_layout_map records
  have hstart : Sending.start (layout (records.map (·.reading))) =
      .writing [] (ofPayload (layout (records.map (·.reading)))) :=
    if_pos (hlength ▸ hsize)
  have hwire : (ofPayload (layout (records.map (·.reading)))).length =
      4 + 8 + 12 * records.length := by
    rw [ofPayload, List.length_append, length_bigEndian, hlength, Payload.size_eq, lengthWidth]
    omega
  rw [← List.length_map (·.reading)] at hsize hlimit
  exact ⟨_, _, hencode, hstart, hwire, damageDetected_layout hsize hlimit⟩

/-- One record, and a receiver that takes no longer payload: a frame that announces one byte less
than it has is malformed. -/
theorem damageDetected_single :
    let r : Record := ⟨1, ⟨⟨0x80000000⟩, ⟨1⟩, ⟨0x7f7fffff⟩⟩, 0⟩
    (∀ q ∈ [r], q.reading.Finite) ∧ Payload.size [r].length < lengthLimit ∧
      Payload.size [r].length ≤ 20 ∧
      ∃ payload frame, Payload.encode [r] = .ok payload ∧
        Sending.start payload = .writing [] frame ∧ DamageDetected 20 [r.reading] frame ∧
        ∀ s : Source, s.unread = [0, 0, 0, 19] ++ frame.drop 4 → s.failure = none →
          (receiveReadings 20 s).1 = .error (.refused (.malformed (.ofNat 1) 19)) := by
  intro r
  have hfinite : ∀ q ∈ [r], q.reading.Finite := by decide
  obtain ⟨payload, frame, hencode, hstart, -, hdetected⟩ :=
    damageDetected hfinite (by decide) (le_refl 20)
  refine ⟨hfinite, by decide, le_refl _, payload, frame, hencode, hstart, hdetected, ?_⟩
  have hpayload : payload.length = 20 := Payload.length_of_encode hencode
  have hhead : frame.take lengthWidth = [0, 0, 0, 20] := by
    unfold Sending.start at hstart
    rw [if_pos (by rw [hpayload]; decide)] at hstart
    obtain ⟨-, rfl⟩ := Sending.writing.inj hstart
    rw [take_ofPayload, hpayload]
    rfl
  intro s hs hf
  exact hdetected.verdict (.length [0, 0, 0, 19]) ⟨rfl, by rw [hhead]; decide⟩ s hs hf

end Frame
end TelemetryExport
