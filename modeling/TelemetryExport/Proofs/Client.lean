import TelemetryExport.Client
import TelemetryExport.Proofs.Decimal.Digits
import TelemetryExport.Proofs.Frame.Stream

/-! # What a client makes of a reply

The peer closes its side after the reply, so the whole reply is known when the client ends, and
`report` says what comes of its bytes.  In which pieces they arrive does not show
(`fetch_eq_report`).

`Framed` is a reply that begins with a frame within the client's limit, `Understood` one whose
frame has the payload of some readings.  `fetchedExactly` puts together what these two decide:
whether the client succeeds, what it prints, a line for each reading or nothing, and what it
logs about the bytes that follow the frame. -/

namespace TelemetryExport
namespace Client

/-! ### Lines -/

/-- The number that a line begins with, after the blanks that set it. -/
def leadingNumber (text : String) : Nat :=
  naturalOfDigits ((text.toList.dropWhile (· == ' ')).takeWhile Char.isDigit)

theorem toList_numberText (i : Nat) : (numberText i).toList =
    List.replicate (numberWidth - digitCount i) ' ' ++ Nat.toDigits 10 i := by
  unfold numberText
  exact String.toList_ofList

/-- The number is set apart from what follows it. -/
theorem exists_toList_line (i : Nat) (r : Reading) :
    ∃ rest, (line i r).toList = (numberText i).toList ++ ' ' :: rest := by
  simp only [line, Reading.fields, List.map_cons, String.join_cons, String.toList_append]
  exact ⟨_, rfl⟩

theorem leadingNumber_line (i : Nat) (r : Reading) : leadingNumber (line i r) = i := by
  obtain ⟨rest, hrest⟩ := exists_toList_line i r
  have hblank : ∀ c ∈ List.replicate (numberWidth - digitCount i) ' ', (c == ' ') = true := by
    intro c hc
    rw [List.eq_of_mem_replicate hc]
    rfl
  have hdrop : (Nat.toDigits 10 i ++ ' ' :: rest).dropWhile (· == ' ') =
      Nat.toDigits 10 i ++ ' ' :: rest := by
    obtain ⟨d, ds, hds⟩ := List.exists_cons_of_ne_nil (Nat.toDigits_ne_nil (n := i) (b := 10))
    have hd : d.isDigit = true :=
      isDigit_of_mem_toDigits (n := i) (hds ▸ List.mem_cons_self ..)
    have hne : d ≠ ' ' := by
      rintro rfl
      revert hd
      decide
    rw [hds, List.cons_append, List.dropWhile_cons_of_neg (by simpa using hne)]
  have htake : (Nat.toDigits 10 i ++ ' ' :: rest).takeWhile Char.isDigit = Nat.toDigits 10 i := by
    rw [List.takeWhile_append_of_pos fun c hc => isDigit_of_mem_toDigits hc,
      List.takeWhile_cons_of_neg (by decide), List.append_nil]
  unfold leadingNumber
  rw [hrest, toList_numberText, List.append_assoc, List.dropWhile_append_of_pos hblank, hdrop,
    htake, naturalOfDigits_toDigits]

theorem ne_newline_of_isDigit {c : Char} (h : c.isDigit = true) : c ≠ '\n' := by
  rintro rfl
  revert h
  decide

theorem newline_notMem_fixed (places : Nat) (x : Single) : '\n' ∉ (x.fixed places).toList := by
  unfold Single.fixed
  split
  · decide
  · split <;> decide
  · simp only [String.toList_append, String.toList_ofList, List.mem_append, List.mem_cons, not_or]
    refine ⟨by split <;> decide, fun h => ?_, by decide, fun h => ?_⟩
    · exact ne_newline_of_isDigit (Decimal.isDigit_of_mem_pointed (.inl h)) rfl
    · exact ne_newline_of_isDigit (Decimal.isDigit_of_mem_pointed (.inr h)) rfl

theorem newline_notMem_line (i : Nat) (r : Reading) : '\n' ∉ (line i r).toList := by
  have hnumber : '\n' ∉ (numberText i).toList := by
    rw [toList_numberText]
    intro h
    rcases List.mem_append.mp h with hblank | hdigit
    · exact absurd (List.eq_of_mem_replicate hblank) (by decide)
    · exact ne_newline_of_isDigit (isDigit_of_mem_toDigits hdigit) rfl
  have hfield : ∀ p ∈ r.fields,
      '\n' ∉ ("  " ++ p.1.name ++ "=" ++ p.2.fixed places).toList := by
    intro p _
    have hname : '\n' ∉ p.1.name.toList := by
      cases p.1 <;> decide
    simp only [String.toList_append, List.mem_append, not_or]
    exact ⟨⟨⟨by decide, hname⟩, by decide⟩, newline_notMem_fixed places p.2⟩
  unfold line
  rw [String.toList_append, String.toList_join, List.mem_append, not_or]
  refine ⟨hnumber, fun h => ?_⟩
  obtain ⟨text, htext, hc⟩ := List.mem_flatMap.mp h
  obtain ⟨p, hp, rfl⟩ := List.mem_map.mp htext
  exact hfield p hp hc

/-- The output is the readings in their order, each on a line of its own, numbered from zero. -/
structure Prints (output : List String) (readings : List Reading) : Prop where
  length : output.length = readings.length
  line : ∀ i r, readings[i]? = some r → output[i]? = some (line i r)
  number : ∀ i text, output[i]? = some text → leadingNumber text = i ∧ '\n' ∉ text.toList

theorem getElem?_lines (readings : List Reading) (i : Nat) :
    (lines readings)[i]? = readings[i]?.map (line i) := by
  unfold lines
  rw [List.getElem?_map, List.getElem?_zipIdx, Option.map_map, Nat.zero_add]
  rfl

theorem prints_lines (readings : List Reading) : Prints (lines readings) readings where
  length := by rw [lines, List.length_map, List.length_zipIdx]
  line i r h := by rw [getElem?_lines, h, Option.map_some]
  number i text h := by
    rw [getElem?_lines] at h
    obtain ⟨r, -, rfl⟩ := Option.map_eq_some_iff.mp h
    exact ⟨leadingNumber_line i r, newline_notMem_line i r⟩

/-! ### The whole reply -/

/-- What comes of a payload, followed by so many bytes. -/
def taken (flag : UInt8) (payload : Bytes) (count : Nat) : Report :=
  match Payload.decode payload with
  | .error cause => ⟨.error (.decode cause), [flag], [], trailing count⟩
  | .ok readings => ⟨.ok (), [flag], lines readings, trailing count ++ [received readings.length]⟩

theorem taken_of_ok (flag : UInt8) {payload : Bytes} {readings : List Reading}
    (h : Payload.decode payload = .ok readings) (count : Nat) :
    taken flag payload count = ⟨.ok (), [flag], lines readings,
      trailing count ++ [received readings.length]⟩ := by
  rw [taken, h]

theorem taken_of_error (flag : UInt8) {payload : Bytes} {cause : Payload.Error}
    (h : Payload.decode payload = .error cause) (count : Nat) :
    taken flag payload count = ⟨.error (.decode cause), [flag], [], trailing count⟩ := by
  rw [taken, h]

/-- What comes of a reply of which no payload is taken. -/
def refused (flag : UInt8) (cause : Error) : Report := ⟨.error cause, [flag], [], []⟩

/-- What comes of all the bytes of a reply. -/
def report (flag : UInt8) (bytes : Bytes) : Report :=
  let length := ofBigEndian (bytes.take Frame.lengthWidth)
  let rest := bytes.drop Frame.lengthWidth
  if bytes.length < Frame.lengthWidth then refused flag .noResponse
  else if payloadLimit < length then
    refused flag (.receive (Frame.lengthTooLarge length payloadLimit))
  else if rest.length < length then refused flag (.receive .earlyEof)
  else taken flag (rest.take length) (rest.length - length)

variable {flag : UInt8} {reply : Frame.Source}

/-- A length beyond the limit is refused, whatever follows it or fails after it. -/
theorem fetch_of_head (flag : UInt8) {length : Nat} {rest : Bytes}
    (hreply : reply.unread = bigEndian Frame.lengthWidth length ++ rest)
    (hlimit : length < Frame.lengthLimit) (hlength : payloadLimit < length) :
    fetch flag reply = refused flag (.receive (Frame.lengthTooLarge length payloadLimit)) := by
  obtain ⟨t, hreceive, -, -⟩ := Frame.receive_tooLarge hreply hlimit hlength
  unfold fetch
  rw [hreceive]
  rfl

/-- Of a frame within the limit the payload is decoded, and what follows it is counted. -/
theorem fetch_of_frame (flag : UInt8) {payload rest : Bytes}
    (hreply : reply.unread = Frame.ofPayload payload ++ rest) (hfailure : reply.failure = none)
    (hlength : payload.length ≤ payloadLimit) :
    (Frame.receive payloadLimit reply).1 = .ok (some payload) ∧
      fetch flag reply = taken flag payload rest.length := by
  have hlimit : payload.length < Frame.lengthLimit := lt_of_le_of_lt hlength (by decide)
  obtain ⟨t, hreceive, hunread, hrest⟩ := Frame.receive_frame hreply hlimit hlength
  refine ⟨by rw [hreceive], ?_⟩
  unfold fetch
  rw [hreceive]
  dsimp only
  rw [hrest, hfailure, hunread]
  rfl

/-- The pieces in which a reply arrives do not show. -/
theorem fetch_eq_report (flag : UInt8) (hfailure : reply.failure = none) :
    fetch flag reply = report flag reply.unread := by
  unfold report
  dsimp only
  by_cases hshort : reply.unread.length < Frame.lengthWidth
  · obtain ⟨t, hreceive, -, -⟩ := Frame.receive_of_short payloadLimit hshort hfailure
    rw [if_pos hshort]
    unfold fetch
    rw [hreceive]
    rfl
  · have hwidth : (reply.unread.take Frame.lengthWidth).length = Frame.lengthWidth := by
      rw [List.length_take]
      omega
    obtain ⟨hhead, hlimit⟩ := Frame.head_eq_bigEndian hwidth
    have hreply : reply.unread =
        bigEndian Frame.lengthWidth (ofBigEndian (reply.unread.take Frame.lengthWidth)) ++
          reply.unread.drop Frame.lengthWidth := by
      rw [← hhead, List.take_append_drop]
    rw [if_neg hshort]
    generalize ofBigEndian (reply.unread.take Frame.lengthWidth) = length at hlimit hreply ⊢
    -- The length has come: its frame is too long, breaks off, or is complete.
    split_ifs with hlarge hcut
    · exact fetch_of_head flag hreply hlimit hlarge
    · obtain ⟨t, hreceive, -, -⟩ :=
        Frame.receive_of_cut hreply hlimit (Nat.not_lt.mp hlarge) hcut hfailure
      unfold fetch
      rw [hreceive]
      rfl
    · rw [Frame.head_append_eq (Nat.not_lt.mp hcut)] at hreply
      have hfits : ((reply.unread.drop Frame.lengthWidth).take length).length ≤ payloadLimit :=
        (List.length_take_le _ _).trans (Nat.not_lt.mp hlarge)
      rw [(fetch_of_frame flag hreply hfailure hfits).2, List.length_drop]

/-! ### Frames at the front -/

/-- The bytes begin with a length that the client takes, and at least as many more follow. -/
structure Framed (bytes : Bytes) (length : Nat) : Prop where
  head : bytes.take Frame.lengthWidth = bigEndian Frame.lengthWidth length
  fits : length ≤ payloadLimit
  complete : Frame.lengthWidth + length ≤ bytes.length

/-- The bytes that a length at the front announces. -/
def announced (bytes : Bytes) (length : Nat) : Bytes := (bytes.drop Frame.lengthWidth).take length

/-- The bytes begin with the frame of some readings. -/
structure Understood (bytes : Bytes) (length : Nat) (readings : List Reading) : Prop
    extends Framed bytes length where
  decoded : Payload.decode (announced bytes length) = .ok readings

/-- The number of bytes after a frame. -/
def excess (bytes : Bytes) (length : Nat) : Nat := bytes.length - (Frame.lengthWidth + length)

variable {bytes : Bytes} {length : Nat}

theorem Framed.head_eq (h : Framed bytes length) :
    ofBigEndian (bytes.take Frame.lengthWidth) = length := by
  rw [h.head]
  exact Frame.ofBigEndian_head (lt_of_le_of_lt h.fits (by decide))

theorem Framed.report_eq (flag : UInt8) (h : Framed bytes length) :
    report flag bytes = taken flag (announced bytes length) (excess bytes length) := by
  have hcomplete := h.complete
  have hfits := h.fits
  unfold report
  dsimp only
  rw [h.head_eq, List.length_drop, if_neg (by omega), if_neg (by omega), if_neg (by omega),
    Nat.sub_sub]
  rfl

theorem Framed.report_of_error (flag : UInt8) (h : Framed bytes length) {cause : Payload.Error}
    (hdecode : Payload.decode (announced bytes length) = .error cause) :
    report flag bytes =
      ⟨.error (.decode cause), [flag], [], trailing (excess bytes length)⟩ := by
  rw [h.report_eq, taken_of_error flag hdecode]

theorem Understood.report_eq (flag : UInt8) {readings : List Reading}
    (h : Understood bytes length readings) :
    report flag bytes = ⟨.ok (), [flag], lines readings,
      trailing (excess bytes length) ++ [received readings.length]⟩ := by
  rw [h.toFramed.report_eq, taken_of_ok flag h.decoded]

/-- Of bytes without a frame nothing is told but why there is none. -/
theorem report_of_unframed (flag : UInt8) (h : ∀ length, ¬ Framed bytes length) :
    ∃ cause, report flag bytes = refused flag cause := by
  unfold report
  dsimp only
  split_ifs with hshort hlarge hcut
  · exact ⟨_, rfl⟩
  · exact ⟨_, rfl⟩
  · exact ⟨_, rfl⟩
  · have hwidth : (bytes.take Frame.lengthWidth).length = Frame.lengthWidth := by
      rw [List.length_take]
      omega
    rw [List.length_drop] at hcut
    exact absurd ⟨(Frame.head_eq_bigEndian hwidth).1, Nat.not_lt.mp hlarge, by omega⟩ (h _)

theorem report_of_not_understood (flag : UInt8)
    (h : ∀ length readings, ¬ Understood bytes length readings) :
    ∃ cause log, report flag bytes = ⟨.error cause, [flag], [], log⟩ := by
  by_cases hframed : ∃ length, Framed bytes length
  · obtain ⟨length, hframed⟩ := hframed
    cases hdecode : Payload.decode (announced bytes length) with
    | ok readings => exact absurd ⟨hframed, hdecode⟩ (h length readings)
    | error cause => exact ⟨_, _, hframed.report_of_error flag hdecode⟩
  · obtain ⟨cause, hreport⟩ := report_of_unframed flag (not_exists.mp hframed)
    exact ⟨cause, [], hreport⟩

/-- The bytes after a frame are logged, and have no other effect. -/
theorem taken_eq (flag : UInt8) (payload : Bytes) (count : Nat) :
    taken flag payload count =
      { taken flag payload 0 with log := trailing count ++ (taken flag payload 0).log } := by
  cases h : Payload.decode payload with
  | error cause =>
      rw [taken_of_error flag h, taken_of_error flag h]
      exact congrArg (Report.mk _ _ _) (List.append_nil _).symm
  | ok readings =>
      rw [taken_of_ok flag h, taken_of_ok flag h]
      rfl

/-- A frame that something follows, and the same frame alone. -/
theorem Framed.take (h : Framed bytes length) :
    Framed (bytes.take (Frame.lengthWidth + length)) length ∧
      announced (bytes.take (Frame.lengthWidth + length)) length = announced bytes length ∧
      excess (bytes.take (Frame.lengthWidth + length)) length = 0 := by
  have hlength : (bytes.take (Frame.lengthWidth + length)).length = Frame.lengthWidth + length := by
    rw [List.length_take, Nat.min_eq_left h.complete]
  refine ⟨⟨?_, h.fits, hlength.ge⟩, ?_, ?_⟩
  · rw [List.take_take, Nat.min_eq_left (Nat.le_add_right _ _), h.head]
  · rw [announced, List.drop_take, Nat.add_sub_cancel_left, List.take_take, Nat.min_self, announced]
  · rw [excess, hlength, Nat.sub_self]

theorem request_fetch (flag : UInt8) (reply : Frame.Source) :
    (fetch flag reply).request = [flag] := by
  unfold fetch
  dsimp only
  split
  · rfl
  · rfl
  · split
    · rfl
    · split <;> rfl

/-! ### All or nothing -/

/-- What a client makes of a reply whose peer has then closed its side. -/
structure FetchedExactly (flag : UInt8) (reply : Frame.Source) : Prop where
  request : (fetch flag reply).request = [flag]
  ok_iff : (fetch flag reply).result = .ok () ↔
    ∃ length readings, Understood reply.unread length readings
  printed : ∀ length readings, Understood reply.unread length readings →
    Prints (fetch flag reply).output readings ∧
      (fetch flag reply).log =
        trailing (excess reply.unread length) ++ [received readings.length]
  unprinted : (∀ length readings, ¬ Understood reply.unread length readings) →
    (∃ cause, (fetch flag reply).result = .error cause) ∧ (fetch flag reply).output = []
  /-- What follows a frame is counted, and has no other effect. -/
  followed : ∀ length, Framed reply.unread length → ∀ alone : Frame.Source,
    alone.unread = reply.unread.take (Frame.lengthWidth + length) → alone.failure = none →
      (fetch flag reply).result = (fetch flag alone).result ∧
      (fetch flag reply).output = (fetch flag alone).output ∧
      (fetch flag reply).log = trailing (excess reply.unread length) ++ (fetch flag alone).log
  /-- It is counted before the frame's payload is decoded. -/
  undecoded : ∀ length cause, Framed reply.unread length →
    Payload.decode (announced reply.unread length) = .error cause →
      (fetch flag reply).log = trailing (excess reply.unread length)
  unframed : (∀ length, ¬ Framed reply.unread length) → (fetch flag reply).log = []
  /-- What follows a length beyond the limit has no effect at all. -/
  oversized : ∀ length rest, reply.unread = bigEndian Frame.lengthWidth length ++ rest →
    length < Frame.lengthLimit → payloadLimit < length →
      fetch flag reply = refused flag (.receive (Frame.lengthTooLarge length payloadLimit))
  /-- In which pieces the reply arrives has no effect. -/
  pieces : ∀ other : Frame.Source, other.unread = reply.unread → other.failure = none →
    fetch flag other = fetch flag reply

/-- **All or nothing.**  A client whose peer closes its side after the reply succeeds exactly if
the reply begins with the frame of some readings, of at most 16 MiB.  It prints these readings,
and otherwise nothing. -/
theorem fetchedExactly (flag : UInt8) {reply : Frame.Source} (hfailure : reply.failure = none) :
    FetchedExactly flag reply := by
  have hreport := fetch_eq_report flag hfailure
  refine ⟨?_, ?_, fun length readings h => ?_, fun h => ?_, fun length h alone halone hend => ?_,
    fun length cause h hdecode => ?_, fun h => ?_,
    fun _ _ hhead hlimit hlarge => fetch_of_head flag hhead hlimit hlarge,
    fun other hother hend => ?_⟩
  · exact request_fetch flag reply
  · rw [hreport]
    refine ⟨fun hok => ?_, fun ⟨length, readings, h⟩ => by rw [h.report_eq]⟩
    by_contra hnone
    have hnot : ∀ length readings, ¬ Understood reply.unread length readings :=
      fun length readings h => hnone ⟨length, readings, h⟩
    obtain ⟨cause, log, hrefused⟩ := report_of_not_understood flag hnot
    rw [hrefused] at hok
    cases hok
  · rw [hreport, h.report_eq]
    exact ⟨prints_lines readings, rfl⟩
  · obtain ⟨cause, log, hrefused⟩ := report_of_not_understood flag h
    rw [hreport, hrefused]
    exact ⟨⟨cause, rfl⟩, rfl⟩
  · obtain ⟨hframed, hannounced, hexcess⟩ := h.take
    rw [hreport, fetch_eq_report flag hend, halone, h.report_eq, hframed.report_eq, hannounced,
      hexcess, taken_eq]
    exact ⟨rfl, rfl, rfl⟩
  · rw [hreport, h.report_of_error flag hdecode]
  · obtain ⟨cause, hrefused⟩ := report_of_unframed flag h
    rw [hreport, hrefused]
    rfl
  · rw [hreport, fetch_eq_report flag hend, hother]

/-- A reading in three pieces, cut within the length and within the count, and two bytes more. -/
theorem fetchedExactly_trailing :
    let r : Reading := ⟨⟨0x80000000⟩, ⟨1⟩, ⟨0x7f7fffff⟩⟩
    let reply : Frame.Source :=
      ⟨[.piece [0, 0], .notReady, .piece [0, 20, 0, 0, 0], .notReady,
        .piece ([0, 0, 0, 0xf0, 0x3f, 0, 0, 0, 0x80, 1, 0, 0, 0, 0xff, 0xff, 0x7f, 0x7f] ++
          [13, 10])], none⟩
    reply.failure = none ∧ FetchedExactly 2 reply ∧ (fetch 2 reply).result = .ok () ∧
      Prints (fetch 2 reply).output [r] ∧ (fetch 2 reply).log = trailing 2 ++ [received 1] := by
  intro r reply
  have hexact : FetchedExactly 2 reply := fetchedExactly 2 rfl
  have hunderstood : Understood reply.unread 20 [r] :=
    ⟨⟨by decide, by decide, by decide⟩, by decide +kernel⟩
  exact ⟨rfl, hexact, hexact.ok_iff.mpr ⟨20, [r], hunderstood⟩, hexact.printed 20 [r] hunderstood⟩

end Client
end TelemetryExport
