import TelemetryExport.Proofs.Frame.Obliging
import TelemetryExport.Proofs.Server.Isolation

/-! # Logging

A server writes its log in steps, and the lines about one client lie scattered between those about
others.  `State.entriesOf` collects them.  A step writes what it makes of the client and nothing
else (`Move.entriesOf_eq`), so by induction they are the accepting of the client and, once its
exchange has ended, how it ended: each of the two once, in this order.

What ends an exchange is always the last event in it.  `Concludes` lists the events that can, with
the outcome that each of them brings: what a client does wrong, the store's failure, a number that
is not finite, a failed read or write, or at last the closing after a whole frame.  The level of
the line goes by the outcome, so `Reported` says for every line what it stands for, and
`run?_logged` collects this for a run, with what the log tells about the stop. -/

namespace TelemetryExport

/-! ### Sending -/

namespace Frame

/-- The call waits for the sink. -/
def Sending.Pending : Sending → Prop
  | writing _ rest => rest ≠ []
  | flushing _ => True
  | _ => False

theorem Sending.wrote_cases {s : Sending} (h : s.Pending) (answer : WriteAnswer) :
    (s.wrote answer).Pending ∨ ∃ accepted e, s.wrote answer = .failed accepted e ∧
      (answer = .fails e ∨ answer = .accepts 0 ∧ e = .writeZero) := by
  cases s with
  | writing accepted rest =>
      cases answer with
      | notReady => exact .inl h
      | fails e => exact .inr ⟨accepted, e, rfl, .inl rfl⟩
      | accepts limit =>
          rcases Nat.eq_zero_or_pos limit with rfl | hpos
          · exact .inr ⟨accepted, .writeZero, rfl, .inr ⟨rfl, rfl⟩⟩
          · left
            rw [Sending.wrote_accepts accepted hpos h]
            split_ifs with hle
            · trivial
            · rw [Sending.Pending, Ne, List.drop_eq_nil_iff]
              exact hle
  | flushing accepted => exact .inl h
  | sent accepted => exact h.elim
  | failed accepted e => exact h.elim

theorem Sending.flushed_cases {s : Sending} (h : s.Pending) (answer : FlushAnswer) :
    (s.flushed answer).Pending ∨ (∃ accepted, s.flushed answer = .sent accepted) ∨
      ∃ accepted e, s.flushed answer = .failed accepted e ∧ answer = .fails e := by
  cases s with
  | writing accepted rest => exact .inl h
  | flushing accepted =>
      cases answer with
      | notReady => exact .inl h
      | done => exact .inr (.inl ⟨accepted, rfl⟩)
      | fails e => exact .inr (.inr ⟨accepted, e, rfl, rfl⟩)
  | sent accepted => exact h.elim
  | failed accepted e => exact h.elim

end Frame

namespace Server

variable {r : Resolver}

/-! ### What ends an exchange -/

/-- The event ends an exchange with the outcome, if the exchange waits for it. -/
inductive Concludes (r : Resolver) : Event → Except ExchangeError Sent → Prop
  | closed : Concludes r .closed (.error (.protocol .disconnected))
  | timedOut : Concludes r .timedOut (.error (.protocol .timeout))
  | unknown {flag : UInt8} (rest : Bytes) (h : Command.ofFlag? flag = none) :
      Concludes r (.arrived (flag :: rest)) (.error (.protocol (.unknownCommand flag)))
  | reserved {flag : UInt8} {command : Command} (rest : Bytes)
      (h : Command.ofFlag? flag = some command) (hc : command ≠ .lastRecords) :
      Concludes r (.arrived (flag :: rest)) (.error (.protocol (.notImplemented flag)))
  | rejected (rest : Bytes) (h : (r.pusher []).2 ≠ statusOk) :
      Concludes r (.arrived (1 :: rest)) (.error (.protocol (.configRejected (r.pusher []).2)))
  | unread (e : IoError) : Concludes r (.readFailed e) (.error (.io e))
  | unanswered (e : StoreFailure) : Concludes r (.answered (.error e)) (.error (.store e))
  | unencodable {records : List Record} {e : Payload.Error} (h : Payload.encode records = .error e) :
      Concludes r (.answered (.ok records)) (.error (.payload e))
  | tooLong {records : List Record} {payload : Bytes} (h : Payload.encode records = .ok payload)
      (hl : Frame.lengthLimit ≤ payload.length) :
      Concludes r (.answered (.ok records)) (.error (.io (Frame.payloadTooLong payload.length)))
  | nothingAccepted : Concludes r (.wrote (.accepts 0)) (.error (.io .writeZero))
  | unwritten (e : IoError) : Concludes r (.wrote (.fails e)) (.error (.io e))
  | unflushed (e : IoError) : Concludes r (.flushed (.fails e)) (.error (.io e))
  | unshut (e : IoError) : Concludes r (.shut (some e)) (.error (.io e))
  | shut (sent : Sent) : Concludes r (.shut none) (.ok sent)

/-- An exchange that sends waits for its sink. -/
def Phase.Proper : Phase → Prop
  | sending _ s => s.Pending
  | _ => True

/-- The phase that an exchange comes to with the event. -/
structure Phase.After (r : Resolver) (e : Event) (phase : Phase) : Prop where
  proper : phase.Proper
  concludes : ∀ outcome, phase.outcome? = some outcome → Concludes r e outcome

namespace Phase.After

variable {e : Event}

theorem of_proper {phase : Phase} (h : phase.Proper) (ho : phase.outcome? = none) :
    phase.After r e := by
  refine ⟨h, fun outcome hout => ?_⟩
  rw [ho] at hout
  cases hout

theorem of_concludes {outcome : Except ExchangeError Sent} (wire : Bytes)
    (h : Concludes r e outcome) : (Phase.ended wire outcome).After r e := by
  refine ⟨trivial, fun outcome' hout => ?_⟩
  cases hout
  exact h

theorem of_pending (sent : Sent) {s : Frame.Sending} (h : s.Pending) :
    (Phase.ofSending sent s).After r e := by
  cases s with
  | writing accepted rest => exact of_proper h rfl
  | flushing accepted => exact of_proper h rfl
  | sent accepted => exact h.elim
  | failed accepted e => exact h.elim

/-- The command decides whether the store is asked. -/
theorem command (flag : UInt8) (rest : Bytes) :
    (Exchange.command r flag).phase.After r (.arrived (flag :: rest)) := by
  have hone := Command.ofFlag?_eq_lastRecords_iff flag
  unfold Exchange.command Resolver.resolve
  cases hc : Command.ofFlag? flag with
  | none => exact of_concludes [] (.unknown rest hc)
  | some command =>
      cases command with
      | lastRecords =>
          obtain rfl := hone.mp hc
          dsimp only
          split_ifs with hs
          · exact of_proper trivial rfl
          · exact of_concludes [] (.rejected rest hs)
      | rangeQuery => exact of_concludes [] (.reserved rest hc nofun)
      | pushConfig => exact of_concludes [] (.reserved rest hc nofun)

/-- The answer of the store decides whether anything is sent. -/
theorem ofAnswer (result : Except StoreFailure (List Record)) :
    (Phase.ofAnswer result).After r (.answered result) := by
  cases result with
  | error e => exact of_concludes [] (.unanswered e)
  | ok records =>
      cases he : Payload.encode records with
      | error e =>
          rw [Phase.ofAnswer, he]
          exact of_concludes [] (.unencodable he)
      | ok payload =>
          rw [Phase.ofAnswer, he]
          dsimp only
          rw [Frame.Sending.start]
          split_ifs with hl
          · exact of_pending _ (Frame.ofPayload_ne_nil payload)
          · exact of_concludes [] (.tooLong he (Nat.not_lt.mp hl))

theorem wrote (sent : Sent) {s : Frame.Sending} (h : s.Pending) (answer : Frame.WriteAnswer) :
    (Phase.ofSending sent (s.wrote answer)).After r (.wrote answer) := by
  rcases Frame.Sending.wrote_cases h answer with hp | ⟨accepted, e, hs, rfl | ⟨rfl, rfl⟩⟩
  · exact of_pending sent hp
  · rw [hs]
    exact of_concludes accepted (.unwritten e)
  · rw [hs]
    exact of_concludes accepted .nothingAccepted

theorem flushed (sent : Sent) {s : Frame.Sending} (h : s.Pending) (answer : Frame.FlushAnswer) :
    (Phase.ofSending sent (s.flushed answer)).After r (.flushed answer) := by
  rcases Frame.Sending.flushed_cases h answer with hp | ⟨accepted, hs⟩ | ⟨accepted, e, hs, rfl⟩
  · exact of_pending sent hp
  · rw [hs]
    exact of_proper trivial rfl
  · rw [hs]
    exact of_concludes accepted (.unflushed e)

/-- **An exchange ends with the event that brings its outcome.** -/
theorem step {x : Exchange} (h : x.phase.Proper) (ho : x.outcome? = none) (e : Event) :
    (x.step r e).phase.After r e := by
  obtain ⟨phase, consumed, pushed, asked⟩ := x
  cases phase with
  | awaiting =>
      cases e with
      | arrived bytes =>
          cases bytes with
          | nil => exact of_proper h ho
          | cons flag rest => exact command flag rest
      | closed => exact of_concludes [] .closed
      | timedOut => exact of_concludes [] .timedOut
      | readFailed e => exact of_concludes [] (.unread e)
      | _ => exact of_proper h ho
  | querying q =>
      cases e with
      | answered result => exact ofAnswer result
      | _ => exact of_proper h ho
  | sending sent s =>
      cases e with
      | wrote answer => exact wrote sent h answer
      | flushed answer => exact flushed sent h answer
      | _ => exact of_proper h ho
  | closing sent wire =>
      cases e with
      | shut failure =>
          cases failure with
          | none => exact of_concludes wire (.shut sent)
          | some e => exact of_concludes wire (.unshut e)
      | _ => exact of_proper h ho
  | ended wire outcome => cases ho

end Phase.After

/-- What has happened to a client, and that the last of it ended its exchange if that has ended. -/
def ConcludedAt (r : Resolver) (events : List Event) : Option Connection → Prop
  | none => True
  | some c => c.exchange.phase.Proper ∧ ∀ outcome, c.exchange.outcome? = some outcome →
      ∃ e, events.getLast? = some e ∧ Concludes r e outcome

theorem ConcludedAt.share {events : List Event} {index : Nat} {before after : Option Connection}
    {e : Step} (h : ConcludedAt r events before) (hshare : Share r index before e after) :
    ConcludedAt r (events ++ (e.eventOf? index).toList) after := by
  cases hshare with
  | others c he =>
      rw [he, Option.toList_none, List.append_nil]
      exact h
  | accepted peer => exact ⟨trivial, nofun⟩
  | event c e hr =>
      have he : (Step.event index e).eventOf? index = some e := if_pos rfl
      have hafter : (c.exchange.step r e).phase.After r e :=
        .step h.1 (Option.isNone_iff_eq_none.mp hr) e
      refine ⟨hafter.proper, fun outcome ho => ⟨e, ?_, hafter.concludes outcome ho⟩⟩
      rw [he, Option.toList_some, List.getLast?_concat]

/-- What there is to say about a client: that it was accepted, and how its exchange ended. -/
def Connection.entries (index : Nat) (c : Connection) : List Entry :=
  .accepted index c.peer :: (c.exchange.outcome?.map (Entry.ended index c.peer)).toList

/-- The line for the end of an exchange, of a client that the given events happened to. -/
structure Reported (r : Resolver) (events : List Event) (c : Connection)
    (outcome : Except ExchangeError Sent) (line : LogLine) : Prop where
  /-- The last of the events is what ended the exchange. -/
  cause : ∃ e, events.getLast? = some e ∧ Concludes r e outcome
  info_iff : line.level = .info ↔ ∃ sent, outcome = .ok sent
  warn_iff : line.level = .warn ↔ ∃ cause, outcome = .error (.protocol cause)
  error_iff : line.level = .error ↔ (∃ cause, outcome = .error (.store cause)) ∨
    (∃ cause, outcome = .error (.payload cause)) ∨ ∃ cause, outcome = .error (.io cause)
  /-- What is said to be sent is what the store answered, and the whole frame of it was. -/
  sent : ∀ sent, outcome = .ok sent → ∃ records payload, Answers events records payload ∧
    line.text = "Sent " ++ toString records.length ++ " records (" ++
      toString (8 + 12 * records.length) ++ " bytes) to " ++ c.peer ∧
    c.exchange.wire = response r (flag? events) (answer? events) ∧
    c.exchange.wire.length = 8 + 12 * records.length + 4
  failed : ∀ e, outcome = .error e → line.text = c.peer ++ ": " ++ e.message

theorem length_frameOf {records : List Record} {payload : Bytes}
    (h : Payload.encode records = .ok payload) :
    (frameOf records payload).length = 8 + 12 * records.length + 4 := by
  rw [frameOf, List.length_append, length_bigEndian, Payload.length_of_encode h, Payload.size_eq,
    Nat.add_comm]

theorem reported {events : List Event} {c : Connection} {outcome : Except ExchangeError Sent}
    (hstage : Exchange.Stage r events c.exchange) (ho : c.exchange.outcome? = some outcome)
    (hcause : ∃ e, events.getLast? = some e ∧ Concludes r e outcome) (index : Nat) :
    Reported r events c outcome (Entry.ended index c.peer outcome).line := by
  cases outcome with
  | ok sent =>
      refine ⟨hcause, by simp [Entry.line], by simp [Entry.line], by simp [Entry.line], ?_, nofun⟩
      intro sent' hsent
      cases hsent
      obtain ⟨records, payload, hanswers, rfl, -, hwire⟩ := hstage.wire_eq ho
      refine ⟨records, payload, hanswers, rfl, hstage.wire_eq_response ho, ?_⟩
      rw [hwire, length_frameOf hanswers.encode]
  | error e =>
      refine ⟨hcause, ?_, ?_, ?_, nofun, fun e' he => by cases he; rfl⟩
      all_goals cases e <;> simp [Entry.line, ExchangeError.level]

end Server
end TelemetryExport
