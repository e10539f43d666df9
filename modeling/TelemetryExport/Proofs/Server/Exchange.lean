import TelemetryExport.Proofs.Payload.RoundTrip
import TelemetryExport.Server.Exchange

/-! # All or nothing

Of a client only the opening matters: the first byte it sends, or the way its stream ends
without one.  `run_start` splits a run at its opening, and what the client does afterwards drops
out of it; `run_querying` splits the rest at the first answer of the store.  From then on the
exchange only works towards the one frame of that answer (`Phase.Towards`), of which every
moment has written a beginning.

`run_stage` lists the stages that a run can have come to, and the lemmas of `Stage` say what each
has taken, asked and written; `run_start_allOrNothing` collects them for every run. -/

namespace TelemetryExport

/-! ### Sending -/

namespace Frame

/-- A call that sends `frame` has come as far as `s`. -/
def Sending.Towards (frame : Bytes) : Sending → Prop
  | writing accepted rest => accepted ++ rest = frame
  | flushing accepted => accepted = frame
  | sent accepted => accepted = frame
  | failed accepted _ => accepted <+: frame

theorem Sending.Towards.start (payload : Bytes) :
    (Sending.start payload).Towards (ofPayload payload) := by
  unfold Sending.start
  split_ifs
  · exact List.nil_append _
  · exact List.nil_prefix

theorem Sending.Towards.wrote {frame : Bytes} {s : Sending} (h : s.Towards frame)
    (answer : WriteAnswer) : (s.wrote answer).Towards frame := by
  cases s with
  | writing accepted rest =>
      have hpre : accepted <+: frame := ⟨rest, h⟩
      cases answer with
      | notReady => exact h
      | fails error => exact hpre
      | accepts limit =>
          have hsplit : accepted ++ (rest.take limit ++ rest.drop limit) = frame := by
            rw [List.take_append_drop]
            exact h
          rw [Sending.wrote]
          split
          · exact hpre
          · rename_i heq _
            rw [heq, List.append_nil] at hsplit
            exact hsplit
          · rw [← List.append_assoc] at hsplit
            exact hsplit
  | flushing accepted => exact h
  | sent accepted => exact h
  | failed accepted error => exact h

theorem Sending.Towards.flushed {frame : Bytes} {s : Sending} (h : s.Towards frame)
    (answer : FlushAnswer) : (s.flushed answer).Towards frame := by
  cases s with
  | flushing accepted =>
      cases answer with
      | notReady => exact h
      | done => exact h
      | fails error => exact h ▸ List.prefix_refl _
  | writing accepted rest => exact h
  | sent accepted => exact h
  | failed accepted error => exact h

theorem Sending.Towards.accepted_begins {frame : Bytes} {s : Sending} (h : s.Towards frame) :
    s.accepted <+: frame := by
  cases s with
  | writing accepted rest => exact ⟨rest, h⟩
  | flushing accepted => exact h ▸ List.prefix_refl _
  | sent accepted => exact h ▸ List.prefix_refl _
  | failed accepted error => exact h

end Frame

/-! ### Resolving a flag -/

theorem Command.ofFlag?_eq_lastRecords_iff (flag : UInt8) :
    Command.ofFlag? flag = some .lastRecords ↔ flag = 1 := by
  by_cases h : flag = 1
  · subst h
    decide
  · have h1 : ((1 : UInt8) == flag) = false := by simpa using fun h' => h h'.symm
    refine ⟨fun hc => ?_, fun hf => absurd hf h⟩
    simp only [Command.ofFlag?, List.find?, Command.flag, h1] at hc
    split at hc
    · cases hc
    · split at hc <;> cases hc

namespace Resolver

variable (r : Resolver) (flag : UInt8)

/-- The device is asked once by the one command that needs it, and otherwise not at all. -/
theorem pushed_resolve : (r.resolve flag).pushed = if flag = 1 then [[]] else [] := by
  have hc := Command.ofFlag?_eq_lastRecords_iff flag
  unfold resolve
  split
  · next heq =>
      rw [heq] at hc
      rw [if_neg (fun h => nomatch hc.mpr h)]
  · next heq => rw [if_pos (hc.mp heq)]
  · next hne heq => rw [if_neg (fun h => hne (Option.some.inj (heq.symm.trans (hc.mpr h))))]

theorem outcome_resolve_eq_ok_iff (q : Query) :
    (r.resolve flag).outcome = .ok q ↔
      flag = 1 ∧ (r.pusher []).2 = statusOk ∧ q = .lastN r.deviceId (r.pusher []).1 := by
  have hc := Command.ofFlag?_eq_lastRecords_iff flag
  unfold resolve
  split
  · next heq =>
      rw [heq] at hc
      exact ⟨nofun, fun h => nomatch hc.mpr h.1⟩
  · next heq =>
      have hf := hc.mp heq
      dsimp only
      split_ifs with hs
      · exact ⟨fun h => ⟨hf, hs, (Except.ok.inj h).symm⟩, fun h => by rw [h.2.2]⟩
      · exact ⟨nofun, fun h => absurd h.2.1 hs⟩
  · next hne heq =>
      refine ⟨nofun, fun h => ?_⟩
      exact absurd (Option.some.inj (heq.symm.trans (hc.mpr h.1))) hne

end Resolver

namespace Server

/-! ### Openings -/

/-- What the wait for a command ends with. -/
inductive Opening where
  | flag (value : UInt8)
  | closed
  | timedOut
  | readFailed (e : IoError)
deriving DecidableEq, Repr

def Event.opening? : Event → Option Opening
  | arrived [] => none
  | arrived (value :: _) => some (.flag value)
  | closed => some .closed
  | timedOut => some .timedOut
  | readFailed e => some (.readFailed e)
  | _ => none

/-- The client makes the event, or the clock that its silence is measured by. -/
def Event.ofClient : Event → Bool
  | arrived _ => true
  | closed => true
  | timedOut => true
  | readFailed _ => true
  | _ => false

/-- The opening of a run, and what others than the client do after it. -/
def opening? : List Event → Option (Opening × List Event)
  | [] => none
  | e :: events =>
    match e.opening? with
    | some o => some (o, events.filter fun e => !e.ofClient)
    | none => opening? events

/-- The command that opens a run. -/
def flag? (events : List Event) : Option UInt8 :=
  match opening? events with
  | some (.flag value, _) => some value
  | _ => none

/-- The first answer of the store, and what happens after it. -/
def firstAnswer? : List Event → Option (Except StoreFailure (List Record) × List Event)
  | [] => none
  | .answered result :: events => some (result, events)
  | _ :: events => firstAnswer? events

/-- The answer of the store that an exchange with the given events takes. -/
def answer? (events : List Event) : Option (Except StoreFailure (List Record)) :=
  (opening? events).bind fun p => (firstAnswer? p.2).map (·.1)

namespace Exchange

variable (r : Resolver)

/-- The exchange after its opening. -/
def opened : Opening → Exchange
  | .flag value => command r value
  | .closed => { start with phase := .failed (.protocol .disconnected) }
  | .timedOut => { start with phase := .failed (.protocol .timeout) }
  | .readFailed e => { start with phase := .failed (.io e) }

theorem step_start (e : Event) :
    step r start e = match e.opening? with
      | some o => opened r o
      | none => start := by
  cases e with
  | arrived bytes => cases bytes <;> rfl
  | shut failure => cases failure <;> rfl
  | _ => rfl

/-- Once an exchange is open, nothing the client does has an effect. -/
theorem step_ofClient {x : Exchange} (hx : x.phase ≠ .awaiting) {e : Event}
    (he : e.ofClient = true) : step r x e = x := by
  obtain ⟨phase, consumed, pushed, asked⟩ := x
  cases phase with
  | awaiting => exact absurd rfl hx
  | _ => cases e <;> first | rfl | cases he

theorem ofSending_ne_awaiting (sent : Sent) (s : Frame.Sending) :
    Phase.ofSending sent s ≠ .awaiting := by
  cases s <;> exact nofun

theorem ofAnswer_ne_awaiting (result : Except StoreFailure (List Record)) :
    Phase.ofAnswer result ≠ .awaiting := by
  unfold Phase.ofAnswer
  split
  · exact nofun
  · split
    · exact nofun
    · exact ofSending_ne_awaiting _ _

/-- What an open exchange makes of an event: only its phase changes. -/
theorem step_opened {x : Exchange} (hx : x.phase ≠ .awaiting) (e : Event) :
    ∃ p, p ≠ .awaiting ∧ step r x e = { x with phase := p } := by
  obtain ⟨phase, consumed, pushed, asked⟩ := x
  cases phase with
  | awaiting => exact absurd rfl hx
  | querying q =>
      cases e with
      | answered result => exact ⟨_, ofAnswer_ne_awaiting result, rfl⟩
      | _ => exact ⟨_, hx, rfl⟩
  | sending sent s =>
      cases e with
      | wrote answer => exact ⟨_, ofSending_ne_awaiting sent (s.wrote answer), rfl⟩
      | flushed answer => exact ⟨_, ofSending_ne_awaiting sent (s.flushed answer), rfl⟩
      | _ => exact ⟨_, hx, rfl⟩
  | closing sent wire =>
      cases e with
      | shut failure => cases failure <;> exact ⟨.ended wire _, nofun, rfl⟩
      | _ => exact ⟨_, hx, rfl⟩
  | ended wire outcome => cases e <;> exact ⟨_, hx, rfl⟩

theorem run_opened {x : Exchange} (hx : x.phase ≠ .awaiting) (events : List Event) :
    run r x events = { x with phase := (run r x events).phase } := by
  induction events generalizing x with
  | nil => rfl
  | cons e rest ih =>
      obtain ⟨p, hp, hstep⟩ := step_opened r hx e
      rw [run_cons, hstep]
      exact ih hp

/-- The client's part of what happens to an open exchange can be left out. -/
theorem run_filter {x : Exchange} (hx : x.phase ≠ .awaiting) (events : List Event) :
    run r x (events.filter fun e => !e.ofClient) = run r x events := by
  induction events generalizing x with
  | nil => rfl
  | cons e rest ih =>
      cases he : e.ofClient with
      | true =>
          rw [List.filter_cons_of_neg (by simp [he]), run_cons, step_ofClient r hx he]
          exact ih hx
      | false =>
          obtain ⟨p, hp, hstep⟩ := step_opened r hx e
          rw [List.filter_cons_of_pos (by simp [he]), run_cons, run_cons, hstep]
          exact ih hp

theorem phase_of_outcome? {x : Exchange} {o : Except ExchangeError Sent}
    (h : x.outcome? = some o) : ∃ wire, x.phase = .ended wire o := by
  unfold outcome? at h
  generalize x.phase = phase at h
  cases phase with
  | ended wire outcome => exact ⟨wire, congrArg _ (Option.some.inj h)⟩
  | _ => cases h

theorem run_of_outcome? {x : Exchange} {o : Except ExchangeError Sent} (h : x.outcome? = some o)
    (events : List Event) : run r x events = x := by
  induction events with
  | nil => rfl
  | cons e rest ih => rw [run_cons, step_of_outcome? h, ih]

/-! ### Splitting a run -/

theorem command_eq (flag : UInt8) :
    (∃ q, command r flag = ⟨.querying q, 1, [[]], [q]⟩ ∧ flag = 1 ∧
      (r.pusher []).2 = statusOk ∧ q = .lastN r.deviceId (r.pusher []).1) ∨
    (∃ e, command r flag =
        ⟨.failed (.protocol e), 1, if flag = 1 then [[]] else [], []⟩ ∧
      ¬ (flag = 1 ∧ (r.pusher []).2 = statusOk)) := by
  have hok := r.outcome_resolve_eq_ok_iff flag
  unfold command
  dsimp only
  rw [r.pushed_resolve flag]
  cases ho : (r.resolve flag).outcome with
  | ok q =>
      obtain ⟨hf, hs, hq⟩ := (hok q).mp ho
      exact .inl ⟨q, by rw [if_pos hf], hf, hs, hq⟩
  | error e =>
      refine .inr ⟨e, rfl, fun h => ?_⟩
      have := (hok _).mpr ⟨h.1, h.2, rfl⟩
      rw [ho] at this
      cases this

theorem opened_ne_awaiting (o : Opening) : (opened r o).phase ≠ .awaiting := by
  cases o with
  | flag value =>
      rcases command_eq r value with ⟨q, h, -⟩ | ⟨e, h, -⟩
      · rw [opened, h]
        exact nofun
      · rw [opened, h]
        exact nofun
  | _ => exact nofun

/-- A run is its opening, and then what others than the client make of it. -/
theorem run_start (events : List Event) :
    run r start events = match opening? events with
      | some (o, later) => run r (opened r o) later
      | none => start := by
  induction events with
  | nil => rfl
  | cons e rest ih =>
      rw [run_cons, step_start, opening?]
      cases e.opening? with
      | none => exact ih
      | some o => exact (run_filter r (opened_ne_awaiting r o) rest).symm

/-- An exchange that has asked the store goes on with the first answer. -/
theorem run_querying (q : Query) (consumed : Nat) (pushed : List Bytes) (asked : List Query)
    (events : List Event) :
    run r ⟨.querying q, consumed, pushed, asked⟩ events = match firstAnswer? events with
      | some (result, later) => run r ⟨.ofAnswer result, consumed, pushed, asked⟩ later
      | none => ⟨.querying q, consumed, pushed, asked⟩ := by
  induction events with
  | nil => rfl
  | cons e rest ih =>
      cases e with
      | answered result => rfl
      | _ => exact ih

end Exchange

/-! ### Working towards a frame -/

/-- An exchange that is to report `sent` and to write `frame` stands at the phase. -/
def Phase.Towards (sent : Sent) (frame : Bytes) : Phase → Prop
  | sending sent' s => sent' = sent ∧ s.Towards frame
  | closing sent' wire => sent' = sent ∧ wire = frame
  | ended wire (.ok sent') => sent' = sent ∧ wire = frame
  | ended wire (.error (.io _)) => wire <+: frame
  | _ => False

theorem Phase.Towards.ofSending (sent : Sent) {frame : Bytes} {s : Frame.Sending}
    (h : s.Towards frame) : (Phase.ofSending sent s).Towards sent frame := by
  cases s with
  | writing accepted rest => exact ⟨rfl, h⟩
  | flushing accepted => exact ⟨rfl, h⟩
  | sent accepted => exact ⟨rfl, h⟩
  | failed accepted error => exact h

theorem Phase.Towards.ofAnswer {records : List Record} {payload : Bytes}
    (h : Payload.encode records = .ok payload) :
    (Phase.ofAnswer (.ok records)).Towards ⟨records.length, payload.length⟩
      (Frame.ofPayload payload) := by
  rw [Phase.ofAnswer, h]
  exact .ofSending _ (.start payload)

theorem Phase.Towards.wire_begins {sent : Sent} {frame : Bytes} {phase : Phase}
    (h : phase.Towards sent frame) : phase.wire <+: frame := by
  cases phase with
  | awaiting => exact h.elim
  | querying q => exact h.elim
  | sending sent' s => exact h.2.accepted_begins
  | closing sent' wire => exact h.2 ▸ List.prefix_refl _
  | ended wire outcome =>
      cases outcome with
      | ok sent' => exact h.2 ▸ List.prefix_refl _
      | error e =>
          cases e with
          | io cause => exact h
          | _ => exact h.elim

namespace Exchange

variable (r : Resolver)

theorem step_towards {sent : Sent} {frame : Bytes} {x : Exchange}
    (h : x.phase.Towards sent frame) (e : Event) : (step r x e).phase.Towards sent frame := by
  obtain ⟨phase, consumed, pushed, asked⟩ := x
  cases phase with
  | awaiting => exact h.elim
  | querying q => exact h.elim
  | sending sent' s =>
      obtain ⟨rfl, hs⟩ := h
      cases e with
      | wrote answer => exact .ofSending _ (hs.wrote answer)
      | flushed answer => exact .ofSending _ (hs.flushed answer)
      | _ => exact ⟨rfl, hs⟩
  | closing sent' wire =>
      obtain ⟨rfl, rfl⟩ := h
      cases e with
      | shut failure =>
          cases failure with
          | none => exact ⟨rfl, rfl⟩
          | some e => exact List.prefix_refl _
      | _ => exact ⟨rfl, rfl⟩
  | ended wire outcome => cases e <;> exact h

theorem run_towards {sent : Sent} {frame : Bytes} {x : Exchange}
    (h : x.phase.Towards sent frame) (events : List Event) :
    (run r x events).phase.Towards sent frame := by
  induction events generalizing x with
  | nil => exact h
  | cons e rest ih => exact ih (step_towards r h e)

end Exchange

/-- The answer of the store that a run takes, when it can be written as `payload` and sent. -/
structure Answers (events : List Event) (records : List Record) (payload : Bytes) : Prop where
  answer : answer? events = some (.ok records)
  encode : Payload.encode records = .ok payload

/-- The one frame that a run with this answer may write. -/
def frameOf (records : List Record) (payload : Bytes) : Bytes :=
  bigEndian 4 (8 + 12 * records.length) ++ payload

theorem Answers.frameOf_eq {events : List Event} {records : List Record} {payload : Bytes}
    (h : Answers events records payload) : frameOf records payload = Frame.ofPayload payload := by
  rw [frameOf, Frame.ofPayload, Payload.length_of_encode h.encode]
  rfl

namespace Exchange

variable (r : Resolver)

/-- The query of a resolver that accepted its device's answer. -/
def query : Query := .lastN r.deviceId (r.pusher []).1

/-- How far a run with the given events has come: every run is at one of these stages. -/
inductive Stage (events : List Event) : Exchange → Prop
  | waiting (h : opening? events = none) : Stage events start
  | unopened {o : Opening} {later : List Event} {e : ExchangeError}
      (h : opening? events = some (o, later)) (hf : flag? events = none)
      (he : ∀ cause, e = .io cause → o = .readFailed cause) : Stage events ⟨.failed e, 0, [], []⟩
  | refused {value : UInt8} (e : ProtocolError) (h : flag? events = some value)
      (hn : ¬ (value = 1 ∧ (r.pusher []).2 = statusOk)) :
      Stage events ⟨.failed (.protocol e), 1, if value = 1 then [[]] else [], []⟩
  | asking (h : flag? events = some 1) (hs : (r.pusher []).2 = statusOk) :
      Stage events ⟨.querying (query r), 1, [[]], [query r]⟩
  | stopped {e : ExchangeError} (h : flag? events = some 1) (hs : (r.pusher []).2 = statusOk)
      (he : ∀ cause, e ≠ .io cause) :
      Stage events ⟨.failed e, 1, [[]], [query r]⟩
  | tooLong {records : List Record} {payload : Bytes} (e : IoError) (h : flag? events = some 1)
      (hs : (r.pusher []).2 = statusOk) (ha : Answers events records payload) :
      Stage events ⟨.failed (.io e), 1, [[]], [query r]⟩
  | answering {records : List Record} {payload : Bytes} {phase : Phase}
      (h : flag? events = some 1) (hs : (r.pusher []).2 = statusOk)
      (ha : Answers events records payload) (hl : payload.length < Frame.lengthLimit)
      (hp : phase.Towards ⟨records.length, payload.length⟩ (Frame.ofPayload payload)) :
      Stage events ⟨phase, 1, [[]], [query r]⟩

variable {r} {events : List Event}

theorem flag?_eq {value : UInt8} {later : List Event}
    (h : opening? events = some (.flag value, later)) : flag? events = some value := by
  rw [flag?, h]

theorem answer?_eq {value : UInt8} {later rest : List Event}
    {result : Except StoreFailure (List Record)}
    (h : opening? events = some (.flag value, later))
    (ha : firstAnswer? later = some (result, rest)) : answer? events = some result := by
  rw [answer?, h, Option.bind_some, ha]
  rfl

/-- From the answer of the store on. -/
theorem Stage.of_answer (hf : flag? events = some 1) (hs : (r.pusher []).2 = statusOk)
    {result : Except StoreFailure (List Record)} (ha : answer? events = some result)
    (later : List Event) :
    Stage r events (run r ⟨.ofAnswer result, 1, [[]], [query r]⟩ later) := by
  cases result with
  | error e =>
      rw [run_of_outcome? r (o := .error (.store e)) rfl]
      exact .stopped hf hs nofun
  | ok records =>
      cases he : Payload.encode records with
      | error e =>
          have hp : Phase.ofAnswer (.ok records) = .failed (.payload e) := by
            rw [Phase.ofAnswer, he]
          rw [hp, run_of_outcome? r (o := .error (.payload e)) rfl]
          exact .stopped hf hs nofun
      | ok payload =>
          by_cases hl : payload.length < Frame.lengthLimit
          · have htowards := run_towards r
              (x := ⟨.ofAnswer (.ok records), 1, [[]], [query r]⟩) (.ofAnswer he) later
            rw [run_opened r (ofAnswer_ne_awaiting (.ok records))]
            exact .answering hf hs ⟨ha, he⟩ hl htowards
          · have hstart : Frame.Sending.start payload =
                .failed [] (Frame.payloadTooLong payload.length) := by
              rw [Frame.Sending.start, if_neg hl]
            have hp : Phase.ofAnswer (.ok records) =
                .ended [] (.error (.io (Frame.payloadTooLong payload.length))) := by
              rw [Phase.ofAnswer, he]
              dsimp only
              rw [hstart]
              rfl
            rw [hp]
            rw [run_of_outcome? r (o := .error (.io (Frame.payloadTooLong payload.length))) rfl]
            exact .tooLong _ hf hs ⟨ha, he⟩

theorem run_stage (r : Resolver) (events : List Event) : Stage r events (run r start events) := by
  rw [run_start]
  cases ho : opening? events with
  | none => exact .waiting ho
  | some p =>
      obtain ⟨o, later⟩ := p
      dsimp only
      cases o with
      | flag value =>
          rcases command_eq r value with ⟨q, hc, rfl, hs, rfl⟩ | ⟨e, hc, hn⟩
          · rw [opened, hc, run_querying]
            cases hfa : firstAnswer? later with
            | none => exact .asking (flag?_eq ho) hs
            | some a => exact .of_answer (flag?_eq ho) hs (answer?_eq ho hfa) a.2
          · rw [opened, hc, run_of_outcome? r (o := .error (.protocol e)) rfl]
            exact .refused e (flag?_eq ho) hn
      | closed =>
          rw [run_of_outcome? r (o := .error (.protocol .disconnected)) rfl]
          exact .unopened ho (by rw [flag?, ho]) nofun
      | timedOut =>
          rw [run_of_outcome? r (o := .error (.protocol .timeout)) rfl]
          exact .unopened ho (by rw [flag?, ho]) nofun
      | readFailed e =>
          rw [run_of_outcome? r (o := .error (.io e)) rfl]
          refine .unopened ho (by rw [flag?, ho]) fun cause he => ?_
          cases he
          rfl

/-! ### All or nothing -/

namespace Stage

variable {x : Exchange}

theorem consumed_le (h : Stage r events x) : x.consumed ≤ 1 := by
  cases h with
  | waiting => exact Nat.zero_le _
  | unopened => exact Nat.zero_le _
  | _ => exact le_rfl

theorem pushed_eq (h : Stage r events x) :
    x.pushed = if flag? events = some 1 then [[]] else [] := by
  cases h with
  | waiting ho =>
      have hf : flag? events = none := by rw [flag?, ho]
      rw [hf]
      rfl
  | unopened ho hf he =>
      rw [hf]
      rfl
  | refused e hf hn => simp only [hf, Option.some.injEq]
  | asking hf hs => exact (if_pos hf).symm
  | stopped hf hs he => exact (if_pos hf).symm
  | tooLong e hf hs ha => exact (if_pos hf).symm
  | answering hf hs ha hl hp => exact (if_pos hf).symm

theorem asked_eq (h : Stage r events x) :
    x.asked = if flag? events = some 1 ∧ (r.pusher []).2 = statusOk then [query r] else [] := by
  cases h with
  | waiting ho =>
      have hf : flag? events = none := by rw [flag?, ho]
      rw [hf]
      rfl
  | unopened ho hf he =>
      rw [hf]
      rfl
  | @refused value e hf hn =>
      have hno : ¬ (flag? events = some 1 ∧ (r.pusher []).2 = statusOk) := by
        rintro ⟨hv, hs⟩
        rw [hf] at hv
        exact hn ⟨Option.some.inj hv, hs⟩
      exact (if_neg hno).symm
  | asking hf hs => exact (if_pos ⟨hf, hs⟩).symm
  | stopped hf hs he => exact (if_pos ⟨hf, hs⟩).symm
  | tooLong e hf hs ha => exact (if_pos ⟨hf, hs⟩).symm
  | answering hf hs ha hl hp => exact (if_pos ⟨hf, hs⟩).symm

/-- Before an error of any other kind than one of writing, nothing was written. -/
theorem wire_eq_nil (h : Stage r events x) {e : ExchangeError} (ho : x.outcome? = some (.error e))
    (he : (∀ cause, e ≠ .io cause) ∨ flag? events = none) : x.wire = [] := by
  cases h with
  | answering hf hs ha hl hp =>
      obtain ⟨wire, rfl⟩ := phase_of_outcome? ho
      rcases he with he | he
      · cases e with
        | io cause => exact absurd rfl (he cause)
        | _ => exact hp.elim
      · rw [hf] at he
        cases he
  | _ => rfl

/-- Whatever was written begins the frame of the records that the one query returned; without
such a frame, only the command can have been what the exchange failed to read or write. -/
theorem wire_begins (h : Stage r events x) :
    (x.wire = [] ∧ ∀ cause, x.outcome? = some (.error (.io cause)) →
      ∃ later, opening? events = some (.readFailed cause, later)) ∨
    ∃ records payload, Answers events records payload ∧ x.wire <+: frameOf records payload := by
  cases h with
  | waiting => exact .inl ⟨rfl, nofun⟩
  | @unopened o later e ho hf he =>
      refine .inl ⟨rfl, fun cause hc => ⟨later, ?_⟩⟩
      injection hc with hc
      injection hc with hc
      rw [← he cause hc, ho]
  | refused => exact .inl ⟨rfl, nofun⟩
  | asking => exact .inl ⟨rfl, nofun⟩
  | stopped hf hs he =>
      refine .inl ⟨rfl, fun cause hc => ?_⟩
      injection hc with hc
      injection hc with hc
      exact absurd hc (he cause)
  | tooLong e hf hs ha => exact .inr ⟨_, _, ha, List.nil_prefix⟩
  | answering hf hs ha hl hp => exact .inr ⟨_, _, ha, ha.frameOf_eq ▸ hp.wire_begins⟩

/-- A successful exchange has written that frame. -/
theorem wire_eq (h : Stage r events x) {sent : Sent} (ho : x.outcome? = some (.ok sent)) :
    ∃ records payload, Answers events records payload ∧
      sent = ⟨records.length, 8 + 12 * records.length⟩ ∧
      8 + 12 * records.length < Frame.lengthLimit ∧ x.wire = frameOf records payload := by
  cases h with
  | @answering records payload phase hf hs ha hl hp =>
      have hlen : payload.length = 8 + 12 * records.length := Payload.length_of_encode ha.encode
      obtain ⟨wire, rfl⟩ := phase_of_outcome? ho
      obtain ⟨rfl, rfl⟩ := hp
      exact ⟨records, payload, ha, by rw [hlen], hlen ▸ hl, ha.frameOf_eq.symm⟩
  | _ => cases ho

end Stage

/-- What is true of an exchange after the given events, whatever they are. -/
structure AllOrNothing (r : Resolver) (events : List Event) (x : Exchange) : Prop where
  /-- At most one byte of the client is taken. -/
  consumed_le : x.consumed ≤ 1
  /-- Of what the client does, only the opening counts. -/
  eq_of_opening : ∀ events', opening? events' = opening? events → run r start events' = x
  /-- The device is asked once if the command is the one for the newest records. -/
  pushed_eq : x.pushed = if flag? events = some 1 then [[]] else []
  /-- The store is asked once if moreover the device accepts, and never otherwise. -/
  asked_eq : x.asked =
    if flag? events = some 1 ∧ (r.pusher []).2 = statusOk then
      [.lastN r.deviceId (r.pusher []).1]
    else []
  /-- Before an error of any other kind than one of writing, nothing was written. -/
  wire_eq_nil : ∀ e, x.outcome? = some (.error e) →
    (∀ cause, e ≠ .io cause) ∨ flag? events = none → x.wire = []
  /-- Whatever was written begins the frame of the records that the one query returned. -/
  wire_begins : (x.wire = [] ∧ ∀ cause, x.outcome? = some (.error (.io cause)) →
      ∃ later, opening? events = some (.readFailed cause, later)) ∨
    ∃ records payload, Answers events records payload ∧ x.wire <+: frameOf records payload
  /-- A successful exchange has written that frame. -/
  wire_eq : ∀ sent, x.outcome? = some (.ok sent) → ∃ records payload,
    Answers events records payload ∧ sent = ⟨records.length, 8 + 12 * records.length⟩ ∧
      8 + 12 * records.length < Frame.lengthLimit ∧ x.wire = frameOf records payload

/-- **All or nothing.**  Whatever the client, the store and the sink do and in whatever order,
an exchange takes one byte at most, asks the device and the store once at most, and writes the
beginning of one frame, nothing before an early error and the whole of it on success. -/
theorem run_start_allOrNothing (r : Resolver) (events : List Event) :
    AllOrNothing r events (run r start events) := by
  have hstage := run_stage r events
  refine ⟨hstage.consumed_le, ?_, hstage.pushed_eq, hstage.asked_eq, ?_, hstage.wire_begins, ?_⟩
  · intro events' h
    rw [run_start, run_start, h]
  · intro e ho he
    exact hstage.wire_eq_nil ho he
  · intro sent ho
    exact hstage.wire_eq ho

end Exchange
end Server
end TelemetryExport
