import TelemetryExport.Frame.Receiving
import TelemetryExport.Proofs.Frame.Obliging
import TelemetryExport.Proofs.Payload.RoundTrip

/-! # Streams of frames

How a stream is cut into pieces never shows in what is read from it: `Source.take_fst` and
`Source.unread_take` say what a read gives and what it leaves in terms of the unread bytes
alone.  So a frame at the front of the unread bytes is taken off exactly
(`receive_frame`), or refused with only its length taken off (`receive_tooLarge`); a stream that
ends before has no frame (`receive_short`) or breaks off within one (`receive_cut`).

`receiveAll_sendAll` puts the two ends together: whatever obliging sink the payloads of some
batches of records were sent to, and however the accepted bytes arrive later, the receiver gets
those payloads back, reads the batches' readings from them, and then meets the end of the
stream with nothing left over. -/

namespace TelemetryExport
namespace Frame

/-! ### Unread bytes -/

namespace Source

/-- What a read beyond the unread bytes gives. -/
def ending (s : Source) : IoError := s.failure.getD .earlyEof

theorem ending_of_failure_eq_none {s : Source} (h : s.failure = none) : s.ending = .earlyEof := by
  rw [ending, h]
  rfl

theorem ending_of_failure_eq_some {s : Source} {e : IoError} (h : s.failure = some e) :
    s.ending = e := by
  rw [ending, h]
  rfl

/-- The end of a stream has the kind of an error that a reader may have made itself. -/
theorem ending_kind_eq_iff {s : Source} :
    s.ending.kind = .unexpectedEof ↔
      s.failure = none ∨ ∃ e, s.failure = some e ∧ e.kind = .unexpectedEof := by
  cases h : s.failure with
  | none => simp [ending_of_failure_eq_none h, IoError.earlyEof]
  | some e => simp [ending_of_failure_eq_some h]

theorem unread_notReady (arrivals : List Arrival) (failure : Option IoError) :
    (Source.mk (.notReady :: arrivals) failure).unread = (Source.mk arrivals failure).unread := rfl

theorem unread_piece (bytes : Bytes) (arrivals : List Arrival) (failure : Option IoError) :
    (Source.mk (.piece bytes :: arrivals) failure).unread =
      bytes ++ (Source.mk arrivals failure).unread := rfl

end Source

theorem gather_fst (count : Nat) (arrivals : List Arrival) (failure : Option IoError) :
    (gather count arrivals).1 = (Source.mk arrivals failure).unread.take count := by
  induction count, arrivals using gather.induct with
  | case1 arrivals => rw [gather, List.take_zero]
  | case2 count => rfl
  | case3 count arrivals ih =>
      rw [gather, Source.unread_notReady]
      exact ih
  | case4 count bytes arrivals hle _ _ _ ih =>
      rw [gather, if_pos hle, Source.unread_piece, List.take_append, List.take_of_length_le hle]
      exact congrArg (bytes ++ ·) ih
  | case5 count bytes arrivals hgt =>
      rw [gather, if_neg hgt, Source.unread_piece, List.take_append_of_le_length (by omega)]

theorem gather_snd (count : Nat) (arrivals : List Arrival) (failure : Option IoError) :
    (Source.mk (gather count arrivals).2 failure).unread =
      (Source.mk arrivals failure).unread.drop count := by
  induction count, arrivals using gather.induct with
  | case1 arrivals => rw [gather, List.drop_zero]
  | case2 count => rfl
  | case3 count arrivals ih =>
      rw [gather, Source.unread_notReady]
      exact ih
  | case4 count bytes arrivals hle _ _ _ ih =>
      rw [gather, if_pos hle, Source.unread_piece, List.drop_append, List.drop_of_length_le hle,
        List.nil_append]
      exact ih
  | case5 count bytes arrivals hgt =>
      rw [gather, if_neg hgt, Source.unread_piece (bytes.drop (count + 1)), Source.unread_piece,
        List.drop_append_of_le_length (by omega)]

namespace Source

theorem take_fst (s : Source) (count : Nat) :
    (s.take count).1 = if s.unread.length < count then .error s.ending
      else .ok (s.unread.take count) := by
  show (if (gather count s.arrivals).1.length < count then _ else _) = _
  have hg : (gather count s.arrivals).1 = s.unread.take count := gather_fst count _ s.failure
  rw [hg, List.length_take]
  by_cases h : s.unread.length < count
  · rw [if_pos h, if_pos (by omega)]
    rfl
  · rw [if_neg h, if_neg (by omega)]

@[simp] theorem unread_take (s : Source) (count : Nat) :
    (s.take count).2.unread = s.unread.drop count :=
  gather_snd count s.arrivals s.failure

theorem take_of_append {s : Source} {front rest : Bytes} (h : s.unread = front ++ rest) :
    ∃ t, s.take front.length = (.ok front, t) ∧ t.unread = rest ∧ t.failure = s.failure := by
  refine ⟨(s.take front.length).2, Prod.ext ?_ rfl, ?_, rfl⟩
  · rw [take_fst, h, if_neg (by rw [List.length_append]; omega), List.take_left]
  · rw [unread_take, h, List.drop_left]

end Source

/-! ### Frames -/

/-- A frame never carries more readings than a payload can count. -/
theorem lt_maxExactCount_of_size_lt {count : Nat} (h : Payload.size count < lengthLimit) :
    count < Payload.maxExactCount := by
  rw [Payload.size_eq] at h
  simp only [lengthLimit, Payload.maxExactCount] at h ⊢
  omega

theorem ofBigEndian_head {length : Nat} (h : length < lengthLimit) :
    ofBigEndian (bigEndian lengthWidth length) = length :=
  ofBigEndian_bigEndian lengthWidth length h

/-- Any four bytes are a length. -/
theorem head_eq_bigEndian {head : Bytes} (h : head.length = lengthWidth) :
    head = bigEndian lengthWidth (ofBigEndian head) ∧ ofBigEndian head < lengthLimit := by
  refine ⟨?_, ?_⟩
  · rw [← h, bigEndian_ofBigEndian]
  · have hlt := ofBigEndian_lt head
    rwa [h] at hlt

/-- Where as many bytes follow as a length announces, they are its payload. -/
theorem head_append_eq {length : Nat} {bytes : Bytes} (h : length ≤ bytes.length) :
    bigEndian lengthWidth length ++ bytes =
      ofPayload (bytes.take length) ++ bytes.drop length := by
  rw [ofPayload, List.length_take, Nat.min_eq_left h, List.append_assoc, List.take_append_drop]

theorem take_head {s : Source} {length : Nat} {rest : Bytes}
    (h : s.unread = bigEndian lengthWidth length ++ rest) :
    ∃ t, s.take lengthWidth = (.ok (bigEndian lengthWidth length), t) ∧
      t.unread = rest ∧ t.failure = s.failure := by
  have ht := Source.take_of_append h
  rwa [length_bigEndian] at ht

/-- A frame within the limit is taken off the stream, and nothing else is. -/
theorem receive_frame {limit : Nat} {s : Source} {payload rest : Bytes}
    (h : s.unread = ofPayload payload ++ rest) (hp : payload.length < lengthLimit)
    (hl : payload.length ≤ limit) :
    ∃ t, receive limit s = (.ok (some payload), t) ∧ t.unread = rest ∧ t.failure = s.failure := by
  rw [ofPayload, List.append_assoc] at h
  obtain ⟨t, ht, hu, hf⟩ := take_head h
  obtain ⟨u, hu', hrest, hf'⟩ := Source.take_of_append hu
  refine ⟨u, ?_, hrest, hf'.trans hf⟩
  unfold receive
  rw [ht]
  dsimp only
  rw [ofBigEndian_head hp, if_neg (by omega), hu']
  rfl

/-- Of a frame beyond the limit only the length is taken off, and nothing else has to come. -/
theorem receive_tooLarge {limit : Nat} {s : Source} {length : Nat} {rest : Bytes}
    (h : s.unread = bigEndian lengthWidth length ++ rest) (hp : length < lengthLimit)
    (hl : limit < length) :
    ∃ t, receive limit s = (.error (lengthTooLarge length limit), t) ∧
      t.unread = rest ∧ t.failure = s.failure := by
  obtain ⟨t, ht, hu, hf⟩ := take_head h
  refine ⟨t, ?_, hu, hf⟩
  unfold receive
  rw [ht]
  dsimp only
  rw [ofBigEndian_head hp, if_pos hl]

/-- A stream that ends within the length has no further frame; one that breaks there gives its
error, unless that is of the kind by which the end is known. -/
theorem receive_short (limit : Nat) {s : Source} (h : s.unread.length < lengthWidth) :
    ∃ t, receive limit s =
        (if s.ending.kind = .unexpectedEof then .ok none else .error s.ending, t) ∧
      t.unread = [] ∧ t.failure = s.failure := by
  have ht : s.take lengthWidth = (.error s.ending, (s.take lengthWidth).2) := by
    refine Prod.ext ?_ rfl
    rw [Source.take_fst, if_pos h]
  refine ⟨(s.take lengthWidth).2, ?_, ?_, rfl⟩
  · unfold receive
    rw [ht]
  · rw [Source.unread_take, List.drop_of_length_le h.le]

theorem receive_of_short (limit : Nat) {s : Source} (h : s.unread.length < lengthWidth)
    (hf : s.failure = none) :
    ∃ t, receive limit s = (.ok none, t) ∧ t.unread = [] ∧ t.failure = none := by
  have ht := receive_short limit h
  rwa [if_pos (Source.ending_kind_eq_iff.mpr (.inl hf)), hf] at ht

/-- At the end of a stream there is no further frame. -/
theorem receive_end (limit : Nat) {s : Source} (h : s.unread = []) (hf : s.failure = none) :
    ∃ t, receive limit s = (.ok none, t) ∧ t.unread = [] := by
  have hshort : s.unread.length < lengthWidth := by
    rw [h]
    decide
  obtain ⟨t, ht, hu, -⟩ := receive_of_short limit hshort hf
  exact ⟨t, ht, hu⟩

/-- A stream that ends or breaks within the payload gives that as its error. -/
theorem receive_cut {limit : Nat} {s : Source} {length : Nat} {rest : Bytes}
    (h : s.unread = bigEndian lengthWidth length ++ rest) (hp : length < lengthLimit)
    (hl : length ≤ limit) (hrest : rest.length < length) :
    ∃ t, receive limit s = (.error s.ending, t) ∧ t.unread = [] ∧ t.failure = s.failure := by
  obtain ⟨t, ht, hu, hft⟩ := take_head h
  refine ⟨(t.take length).2, ?_, ?_, hft⟩
  · have htake : t.take length = (.error s.ending, (t.take length).2) := by
      refine Prod.ext ?_ rfl
      rw [Source.take_fst, hu, if_pos hrest, Source.ending, hft, Source.ending]
    unfold receive
    rw [ht]
    dsimp only
    rw [ofBigEndian_head hp, if_neg (by omega), htake]
    rfl
  · rw [Source.unread_take, hu, List.drop_of_length_le hrest.le]

/-- A stream that ends within the payload breaks off. -/
theorem receive_of_cut {limit : Nat} {s : Source} {length : Nat} {rest : Bytes}
    (h : s.unread = bigEndian lengthWidth length ++ rest) (hp : length < lengthLimit)
    (hl : length ≤ limit) (hrest : rest.length < length) (hf : s.failure = none) :
    ∃ t, receive limit s = (.error .earlyEof, t) ∧ t.unread = [] ∧ t.failure = none := by
  have ht := receive_cut h hp hl hrest
  rwa [Source.ending_of_failure_eq_none hf, hf] at ht

/-- By induction on the frames: each call takes off the first of those that are left. -/
theorem receiveAll_frames {limit : Nat} {payloads : List Bytes}
    (hp : ∀ p ∈ payloads, p.length ≤ limit ∧ p.length < lengthLimit) {s : Source}
    (h : s.unread = payloads.flatMap ofPayload) (hf : s.failure = none) :
    (receiveAll (List.replicate (payloads.length + 1) limit) s).1 =
        payloads.map (fun p => .ok (some p)) ++ [.ok none] ∧
      (receiveAll (List.replicate (payloads.length + 1) limit) s).2.unread = [] := by
  induction payloads generalizing s with
  | nil =>
      obtain ⟨t, ht, hu⟩ := receive_end limit h hf
      simp only [List.length_nil, Nat.zero_add, List.replicate_one, receiveAll, ht]
      exact ⟨rfl, hu⟩
  | cons p rest ih =>
      obtain ⟨hl, hlt⟩ := hp p (List.mem_cons_self ..)
      obtain ⟨t, ht, hu, hft⟩ := receive_frame h hlt hl
      obtain ⟨hfst, hsnd⟩ :=
        ih (fun q hq => hp q (List.mem_cons_of_mem p hq)) hu (hft.trans hf)
      rw [List.length_cons, List.replicate_succ, receiveAll, ht]
      dsimp only
      refine ⟨?_, hsnd⟩
      rw [hfst, List.map_cons, List.cons_append]

/-! ### Both ends -/

theorem flatMap_accepted_sent (payloads : List Bytes) :
    (payloads.map fun p => Sending.sent (ofPayload p)).flatMap Sending.accepted =
      payloads.flatMap ofPayload := by
  rw [List.flatMap_map]
  rfl

/-- **Stream round trip.**  Batches of finite records are encoded and sent, one frame each, to a
sink that takes the bytes as it likes; the accepted bytes arrive later in any pieces.  Then each
batch's frame is received, its payload reads back as the batch's readings, bit for bit and in
order, one more call finds the end of the stream, and no byte is left. -/
theorem receiveAll_sendAll {σ : Type} {sink : Sink σ} (hs : sink.Obliging) (state : σ)
    (limit : Nat) (batches : List (List Record))
    (hf : ∀ b ∈ batches, ∀ r ∈ b, r.reading.Finite)
    (hsize : ∀ b ∈ batches,
      Payload.size b.length ≤ limit ∧ Payload.size b.length < lengthLimit) :
    ∃ payloads : List Bytes,
      batches.map Payload.encode = payloads.map .ok ∧
      payloads.map Payload.decode = batches.map (fun b => .ok (b.map (·.reading))) ∧
      ∃ enough, ∀ fuel : Bytes → Nat, (∀ p, enough ≤ fuel p) →
        ∃ calls, (sink.sendAll fuel state payloads).2 = calls ∧
          calls = payloads.map (fun p => .sent (ofPayload p)) ∧
          ∀ source : Source, source.unread = calls.flatMap Sending.accepted →
            source.failure = none →
            (receiveAll (List.replicate (batches.length + 1) limit) source).1 =
                payloads.map (fun p => .ok (some p)) ++ [.ok none] ∧
              (receiveAll (List.replicate (batches.length + 1) limit) source).2.unread = [] := by
  have hcount : ∀ b ∈ batches, b.length < Payload.maxExactCount := fun b hb =>
    lt_maxExactCount_of_size_lt (hsize b hb).2
  have hpayload : ∀ p ∈ batches.map fun b => Payload.layout (b.map (·.reading)),
      p.length ≤ limit ∧ p.length < lengthLimit := by
    intro p hp
    obtain ⟨b, hb, rfl⟩ := List.mem_map.mp hp
    rw [Payload.length_layout_map]
    exact hsize b hb
  refine ⟨batches.map fun b => Payload.layout (b.map (·.reading)), ?_, ?_, ?_⟩
  · rw [List.map_map]
    exact List.map_congr_left fun b hb => Payload.encode_eq_ok (hf b hb) (hcount b hb).le
  · rw [List.map_map]
    refine List.map_congr_left fun b hb => Payload.decode_layout ?_
    rw [List.length_map]
    exact hcount b hb
  · obtain ⟨enough, hsent⟩ := hs.sendAll_eq_map_sent state fun p hp => (hpayload p hp).2
    refine ⟨enough, fun fuel hfuel => ⟨_, rfl, hsent fuel hfuel, fun source hu hfail => ?_⟩⟩
    rw [hsent fuel hfuel, flatMap_accepted_sent] at hu
    have hr := receiveAll_frames hpayload hu hfail
    rwa [List.length_map] at hr

/-- A sink that hesitates before every write and takes three bytes at a time, and two batches: an
empty one, and one with a negative zero, the least subnormal and the largest finite number. -/
theorem receiveAll_sendAll_hesitant :
    let plan : FaultPlan := ⟨some 3, none, none, false, true, .writeZero⟩
    let batches : List (List Record) := [[], [⟨1, ⟨⟨0x80000000⟩, ⟨1⟩, ⟨0x7f7fffff⟩⟩, 0⟩]]
    plan.Faultless ∧ (∀ b ∈ batches, ∀ r ∈ b, r.reading.Finite) ∧
      ∃ payloads : List Bytes,
        payloads.map Payload.decode = [.ok [], .ok [⟨⟨0x80000000⟩, ⟨1⟩, ⟨0x7f7fffff⟩⟩]] ∧
        ∃ fuel, ∀ source : Source,
          source.unread =
            (plan.sink.sendAll fuel plan.fresh payloads).2.flatMap Sending.accepted →
          source.failure = none →
          (receiveAll [20, 20, 20] source).1 =
              payloads.map (fun p => .ok (some p)) ++ [.ok none] ∧
            (receiveAll [20, 20, 20] source).2.unread = [] := by
  have hplan : (⟨some 3, none, none, false, true, .writeZero⟩ : FaultPlan).Faultless :=
    ⟨rfl, rfl, rfl, by decide⟩
  refine ⟨hplan, by decide, ?_⟩
  obtain ⟨payloads, -, hdecode, enough, h⟩ := receiveAll_sendAll (FaultPlan.obliging hplan)
    (FaultPlan.fresh _) 20 [[], [⟨1, ⟨⟨0x80000000⟩, ⟨1⟩, ⟨0x7f7fffff⟩⟩, 0⟩]] (by decide)
    (by decide)
  obtain ⟨calls, rfl, -, hreceive⟩ := h (fun _ => enough) fun _ => le_rfl
  exact ⟨payloads, hdecode, _, hreceive⟩

end Frame
end TelemetryExport
