import TelemetryExport.Proofs.Client
import TelemetryExport.Proofs.Server.Worker
import TelemetryExport.Proofs.Store.Filling

/-! # From the store to the client

Everything between a record that is inserted and a line that a client prints: the table and its
order, the query and its count, the payload, the frame, and the client's own limit.

The server sends any payload that a frame can announce, the client takes only those of up to
16 MiB; `Payload.size_le_payloadLimit_iff` finds the boundary between them.  Below it
`Client.fetch_of_frame` gives the client's report and above it `Client.fetch_of_head`, for which
the length of the frame is enough.  `Server.delivered_work` puts the whole way together. -/

namespace TelemetryExport

/-! ### The client's side -/

/-- The largest number of readings that a client takes. -/
def Client.maxReadings : Nat := 1398100

theorem Payload.size_le_payloadLimit_iff (count : Nat) :
    Payload.size count ≤ Client.payloadLimit ↔ count ≤ Client.maxReadings := by
  rw [Payload.size_eq, Client.payloadLimit, Client.maxReadings]
  omega

/-! ### The server's side -/

namespace Store

/-- The number of records in an answer about a device when `count` are asked for. -/
def available (deviceId : Int) (count : Nat) (records : List Record) : Nat :=
  min count (records.countP (·.deviceId == deviceId))

theorem length_take_newest (deviceId : Int) (count : Nat) (records : List Record) :
    ((newest deviceId records).take count).length = available deviceId count records := by
  rw [List.length_take, length_newest, available]

/-- An answer that fits a frame is never cut at the largest count. -/
theorem take_min_maxCount {deviceId : Int} {count : Nat} {records : List Record}
    (h : Payload.size (available deviceId count records) < Frame.lengthLimit) :
    (newest deviceId records).take (min count Table.maxCount) =
      (newest deviceId records).take count := by
  by_cases hcount : count ≤ Table.maxCount
  · rw [min_eq_left hcount]
  · have hlength : (newest deviceId records).length ≤ min count Table.maxCount := by
      rw [length_newest]
      rw [Payload.size_eq, available] at h
      simp only [Frame.lengthLimit, Table.maxCount] at h hcount ⊢
      omega
    rw [List.take_of_length_le hlength,
      List.take_of_length_le (hlength.trans (min_le_left _ _))]

theorem finite_of_agrees {records answer : List Record}
    (h : List.Forall₂ Record.Agrees records answer) : ∀ r ∈ answer, r.reading.Finite := by
  induction h with
  | nil => exact nofun
  | cons hagree _ ih =>
      intro r hr
      rcases List.mem_cons.mp hr with rfl | hr
      · exact hagree.reading.finite
      · exact ih r hr

/-- Whoever asks a store that holds some records gets an answer that can be written, and that
agrees with the newest of them. -/
theorem exists_answer {records : List Record} (hfinite : ∀ r ∈ records, r.reading.Finite)
    (now : Clock) {deviceId : Int} {count : Nat}
    (hlimit : Payload.size (available deviceId count records) < Frame.lengthLimit) :
    ∃ answer, (Table.holding records).answer now (.lastN deviceId count) = .ok answer ∧
      List.Forall₂ Record.Agrees ((newest deviceId records).take count) answer ∧
      (∀ r ∈ answer, r.reading.Finite) ∧
      answer.length = available deviceId count records := by
  obtain ⟨answer, hanswer, hagree⟩ := answer_holding hfinite now deviceId count
  rw [take_min_maxCount hlimit] at hagree
  refine ⟨answer, hanswer, hagree, finite_of_agrees hagree, ?_⟩
  rw [← hagree.length_eq, length_take_newest]

end Store

/-! ### The whole way -/

namespace Server

open Store

variable {σ : Type} {sink : Frame.Sink σ}

/-- A worker over a file that holds some records writes the frame of the newest of them. -/
theorem exists_work_eq_served (hsink : sink.Obliging) (state : σ) {a : Access}
    (hbusy : a.busyTimeoutMs ≤ maxBusyTimeoutMs) {records : List Record}
    (hfinite : ∀ r ∈ records, r.reading.Finite) (p : RetryPolicy) (now : Clock) (task : String)
    (deviceId : Int) (count : Nat)
    (hlimit : Payload.size (available deviceId count records) < Frame.lengthLimit) :
    ∃ answer, List.Forall₂ Record.Agrees ((newest deviceId records).take count) answer ∧
      answer.length = available deviceId count records ∧
      ∃ enough, ∀ fuel ≥ enough,
        (work ⟨deviceId, .static count⟩ (.ofFile [1] (.holding records) a p now task sink) fuel
            state .start).2 =
          .served ⟨deviceId, .static count⟩ answer (Payload.layout (answer.map (·.reading))) := by
  obtain ⟨answer, hanswer, hagree, hreadings, hlength⟩ := exists_answer hfinite now hlimit
  refine ⟨answer, hagree, hlength, ?_⟩
  have hsize : (Payload.layout (answer.map (·.reading))).length =
      Payload.size (available deviceId count records) := by
    rw [Payload.length_layout_map, hlength]
  have hencode := Payload.encode_eq_ok hreadings
    (hlength ▸ (Frame.lt_maxExactCount_of_size_lt hlimit).le)
  refine work_start rfl rfl ?_ hencode (hsize ▸ hlimit) hsink rfl state
  show storeAnswer task ((File.holding records).query a p (.lastN deviceId count) now) = _
  rw [File.query_holding hbusy p hanswer]
  rfl

/-- What comes of an exchange that served `k` records, the ones expected, to a client that asked
for the newest records. -/
structure Delivered (expected : List Record) (k : Nat) (x : Exchange) : Prop where
  outcome : x.outcome? = some (.ok ⟨k, Payload.size k⟩)
  /-- Up to the client's limit, however the bytes that were written arrive, the client decodes
  readings that agree with the expected ones, one by one, prints them and finds nothing else. -/
  printed : k ≤ Client.maxReadings → ∀ reply : Frame.Source, reply.unread = x.wire →
    reply.failure = none → ∃ payload readings,
      (Frame.receive Client.payloadLimit reply).1 = .ok (some payload) ∧
      Payload.decode payload = .ok readings ∧
      List.Forall₂ (fun r reading => r.reading.Agrees reading) expected readings ∧
      Client.fetch 1 reply = ⟨.ok (), [1], Client.lines readings, [Client.received k]⟩
  /-- Beyond it the client prints nothing, once the length has arrived and whatever happens then. -/
  refused : Client.maxReadings < k → ∀ reply : Frame.Source,
    x.wire.take Frame.lengthWidth <+: reply.unread → ∃ e : IoError,
      e.kind = .invalidData ∧ Client.fetch 1 reply = ⟨.error (.receive e), [1], [], []⟩

/-- The client's part: what a worker has written of an answer, the client gets or refuses. -/
theorem delivered_served (r : Resolver) {expected answer : List Record}
    (hagree : List.Forall₂ Record.Agrees expected answer)
    (hlimit : Payload.size answer.length < Frame.lengthLimit) :
    Delivered expected answer.length
      (.served r answer (Payload.layout (answer.map (·.reading)))) := by
  have hsize : (Payload.layout (answer.map (·.reading))).length = Payload.size answer.length :=
    Payload.length_layout_map answer
  refine ⟨?_, ?_, ?_⟩
  · show some (Except.ok (⟨answer.length, (Payload.layout _).length⟩ : Sent)) = _
    rw [hsize]
  · intro hk reply hunread hfailure
    have hdecode : Payload.decode (Payload.layout (answer.map (·.reading))) =
        .ok (answer.map (·.reading)) := by
      apply Payload.decode_layout
      rw [List.length_map, Payload.maxExactCount]
      exact lt_of_le_of_lt hk (by decide)
    have hfits : (Payload.layout (answer.map (·.reading))).length ≤ Client.payloadLimit := by
      rw [hsize, Payload.size_le_payloadLimit_iff]
      exact hk
    have hwhole : reply.unread =
        Frame.ofPayload (Payload.layout (answer.map (·.reading))) ++ [] := by
      rw [List.append_nil]
      exact hunread
    obtain ⟨hreceive, hfetch⟩ := Client.fetch_of_frame 1 hwhole hfailure hfits
    rw [Client.taken_of_ok 1 hdecode, List.length_map] at hfetch
    refine ⟨_, _, hreceive, hdecode, ?_, hfetch⟩
    rw [List.forall₂_map_right_iff]
    exact hagree.imp fun _ _ h => h.reading
  · intro hk reply hhead
    have hlarge : Client.payloadLimit < Payload.size answer.length := by
      rw [← not_le, Payload.size_le_payloadLimit_iff, not_le]
      exact hk
    have htake : (Exchange.served r answer (Payload.layout (answer.map (·.reading)))).wire.take
        Frame.lengthWidth = bigEndian Frame.lengthWidth (Payload.size answer.length) := by
      show (bigEndian Frame.lengthWidth (Payload.layout _).length ++ _).take _ = _
      rw [hsize, List.take_left' (length_bigEndian _ _)]
    rw [htake] at hhead
    obtain ⟨rest, hrest⟩ := hhead
    exact ⟨_, rfl, Client.fetch_of_head 1 hrest.symm hlimit hlarge⟩

/-- **From the store to the client.**  Finite records were inserted with success into a database
that had just been created; a worker over this database carries on an exchange with a client
that asks for the newest records.  If what the query selects fits a frame, the exchange ends, and
the client gets exactly the newest records of the device, or refuses them for their number. -/
theorem delivered_work (hsink : sink.Obliging) (state : σ) {a : Access} {f₀ f₁ f : File}
    (hfresh : f₀.created.content = .database none) (hinit : f₀.init a = (.ok (), f₁))
    {records : List Record} (hfinite : ∀ r ∈ records, r.reading.Finite)
    (hinsert : f₁.insertUntil a records = (.ok (), f)) (p : RetryPolicy) (now : Clock)
    (task : String) (deviceId : Int) (count : Nat)
    (hlimit : Payload.size (available deviceId count records) < Frame.lengthLimit) :
    ∃ enough, ∀ fuel ≥ enough, Delivered ((newest deviceId records).take count)
      (available deviceId count records)
      (work ⟨deviceId, .static count⟩ (.ofFile [1] f a p now task sink) fuel state .start).2 := by
  obtain ⟨hbusy, rfl⟩ := File.eq_holding_of_init hfresh hinit
  have hf := File.eq_holding_of_insertUntil hinsert
  rw [List.nil_append] at hf
  subst hf
  obtain ⟨answer, hagree, hlength, enough, hwork⟩ :=
    exists_work_eq_served hsink state hbusy hfinite p now task deviceId count hlimit
  refine ⟨enough, fun fuel hfuel => ?_⟩
  rw [hwork fuel hfuel, ← hlength]
  exact delivered_served _ hagree (hlength ▸ hlimit)

/-- Two of three records are of the device, and of the same time: the later one comes first, its
negative zero as a positive one.  The sink hesitates and takes five bytes at a time. -/
theorem delivered_work_pair :
    let plan : Frame.FaultPlan := ⟨some 5, none, none, false, true, .writeZero⟩
    let a : Access := ⟨"farm.db", 100⟩
    let first : Record := ⟨1, ⟨⟨0x41a00000⟩, ⟨0x42480000⟩, ⟨0x3fc00000⟩⟩, 300⟩
    let foreign : Record := ⟨2, ⟨⟨0x42c60000⟩, ⟨0x42480000⟩, ⟨0x3fc00000⟩⟩, 400⟩
    let last : Record := ⟨1, ⟨⟨0x80000000⟩, ⟨0x00000001⟩, ⟨0x7f7fffff⟩⟩, 300⟩
    ∃ f₁ f, File.absent.init a = (.ok (), f₁) ∧
      f₁.insertUntil a [first, foreign, last] = (.ok (), f) ∧
      ∃ enough, ∀ fuel ≥ enough, Delivered [last, first] 2
        (work ⟨1, .static 30⟩ (.ofFile [1] f a ⟨3, 100⟩ ⟨0⟩ "7" plan.sink) fuel plan.fresh
          .start).2 := by
  intro plan a first foreign last
  have hplan : plan.Faultless := ⟨rfl, rfl, rfl, by decide⟩
  have hinit : File.absent.init a = (.ok (), .holding []) := by decide
  have hinsert : (File.holding []).insertUntil a [first, foreign, last] =
      (.ok (), .holding [first, foreign, last]) := by decide +kernel
  have hnewest : (newest 1 [first, foreign, last]).take 30 = [last, first] := by
    have hsorted : newest 1 [first, foreign, last] = [last, first] :=
      List.mergeSort_of_pairwise (by decide)
    rw [hsorted]
    rfl
  refine ⟨_, _, hinit, hinsert, ?_⟩
  rw [← hnewest]
  exact delivered_work (Frame.FaultPlan.obliging hplan) plan.fresh rfl hinit (by decide) hinsert
    ⟨3, 100⟩ ⟨0⟩ "7" 1 30 (by decide)

end Server
end TelemetryExport
