import TelemetryExport.Proofs.Frame.Obliging
import TelemetryExport.Proofs.Server.Exchange
import TelemetryExport.Server.Worker

/-! # Workers

A worker takes its exchange only where some list of events takes it (`exists_run_eq_work`), so
whatever holds of every run holds of it.  When the client asks for the newest records, the
device accepts, the store answers with records that can be sent, the sink is obliging and the
sending side can be closed, the worker is done after finitely many demands, and exactly the
frame of these records is out (`work_start`). -/

namespace TelemetryExport
namespace Server

variable {σ : Type} {r : Resolver} {w : World σ}

/-- A worker's way is a run. -/
theorem exists_run_eq_work (fuel : Nat) (state : σ) (x : Exchange) :
    ∃ events, (work r w fuel state x).2 = x.run r events := by
  induction fuel generalizing state x with
  | zero => exact ⟨[], rfl⟩
  | succ fuel ih =>
      unfold work
      cases x.phase.demand? with
      | none => exact ⟨[], rfl⟩
      | some demand =>
          obtain ⟨events, h⟩ := ih (w.meet state demand).2 (x.step r (w.meet state demand).1)
          exact ⟨(w.meet state demand).1 :: events, h⟩

theorem work_of_demand {x : Exchange} (demand : Demand) (h : x.phase.demand? = some demand)
    (fuel : Nat) (state : σ) :
    work r w (fuel + 1) state x =
      work r w fuel (w.meet state demand).2 (x.step r (w.meet state demand).1) := by
  rw [work, h]

theorem work_of_outcome? {x : Exchange} {o : Except ExchangeError Sent}
    (h : x.outcome? = some o) (fuel : Nat) (state : σ) : work r w fuel state x = (state, x) := by
  obtain ⟨wire, hphase⟩ := Exchange.phase_of_outcome? h
  cases fuel with
  | zero => rfl
  | succ fuel =>
      rw [work, hphase]
      rfl

/-- The worker offers the sink what a call that sends the frame would offer it. -/
theorem work_of_leadsTo {state state' : σ} {s t : Frame.Sending}
    (h : w.sink.LeadsTo state s state' t) (sent : Sent) (x : Exchange) :
    ∃ enough, ∀ more, work r w (enough + more) state { x with phase := .ofSending sent s } =
      work r w more state' { x with phase := .ofSending sent t } := by
  induction h with
  | refl => exact ⟨0, fun more => by rw [Nat.zero_add]⟩
  | @wrote state state₁ state₂ accepted rest answer t h _ ih =>
      obtain ⟨enough, ih⟩ := ih
      refine ⟨enough + 1, fun more => ?_⟩
      rw [Nat.add_right_comm, work_of_demand (.room rest) rfl, World.meet, h]
      exact ih more
  | @flushed state state₁ state₂ accepted answer t h _ ih =>
      obtain ⟨enough, ih⟩ := ih
      refine ⟨enough + 1, fun more => ?_⟩
      rw [Nat.add_right_comm, work_of_demand .flush rfl, World.meet, h]
      exact ih more

/-- What an exchange has come to that wrote the frame of `records` and closed its side. -/
def Exchange.served (r : Resolver) (records : List Record) (payload : Bytes) : Exchange :=
  ⟨.ended (Frame.ofPayload payload) (.ok ⟨records.length, payload.length⟩), 1, [[]],
    [Exchange.query r]⟩

/-- **A worker that nothing goes wrong for** comes to an end, with the whole frame written. -/
theorem work_start {records : List Record} {payload : Bytes} {more : Bytes}
    (hopening : w.opening = .arrived (1 :: more)) (hstatus : (r.pusher []).2 = statusOk)
    (hanswer : w.answer (Exchange.query r) = .ok records)
    (hencode : Payload.encode records = .ok payload)
    (hlength : payload.length < Frame.lengthLimit) (hsink : w.sink.Obliging)
    (hshut : w.refusal = none) (state : σ) :
    ∃ enough, ∀ fuel ≥ enough,
      (work r w fuel state .start).2 = Exchange.served r records payload := by
  -- The command and the store's answer bring the exchange to where the frame is sent.
  have hcommand : Exchange.step r .start w.opening =
      ⟨.querying (Exchange.query r), 1, [[]], [Exchange.query r]⟩ := by
    rw [hopening, Exchange.step_start]
    rcases Exchange.command_eq r 1 with ⟨q, hc, -, -, rfl⟩ | ⟨e, -, hn⟩
    · exact hc
    · exact absurd ⟨rfl, hstatus⟩ hn
  have hanswered :
      Exchange.step r ⟨.querying (Exchange.query r), 1, [[]], [Exchange.query r]⟩
          (.answered (.ok records)) =
        ⟨.ofSending ⟨records.length, payload.length⟩ (.start payload), 1, [[]],
          [Exchange.query r]⟩ := by
    show (⟨Phase.ofAnswer (.ok records), 1, [[]], [Exchange.query r]⟩ : Exchange) = _
    rw [Phase.ofAnswer, hencode]
  obtain ⟨state', hleads⟩ := hsink.start_leadsTo state hlength
  obtain ⟨enough, henough⟩ := work_of_leadsTo (r := r) hleads
    ⟨records.length, payload.length⟩ ⟨.awaiting, 1, [[]], [Exchange.query r]⟩
  refine ⟨enough + 1 + 1 + 1, fun fuel hfuel => ?_⟩
  obtain ⟨left, rfl⟩ := Nat.exists_eq_add_of_le hfuel
  rw [show enough + 1 + 1 + 1 + left = enough + (left + 1) + 1 + 1 by omega]
  rw [work_of_demand .command rfl, World.meet, hcommand]
  rw [work_of_demand (.answer (Exchange.query r)) rfl, World.meet, hanswer]
  rw [hanswered, henough, work_of_demand .shutdown rfl, World.meet, hshut]
  rw [work_of_outcome? (o := .ok ⟨records.length, payload.length⟩) rfl]
  rfl

end Server
end TelemetryExport
