import Mathlib.Order.MinMax
import Mathlib.Tactic.SplitIfs
import TelemetryExport.Frame.FaultySink

/-! # Obliging sinks

A sink is obliging (`Sink.Obliging`) if it never fails and never accepts nothing: it may answer
that it is not ready any number of times, but in the end it accepts at least one of the bytes it
is offered, and in the end it is flushed.  How many bytes it takes at a time is left open.

* `Sink.drive_start`: an obliging sink takes every payload that a frame can announce; the call
  ends, and what was accepted is the frame.
* `Sink.sendAll_eq_map_sent`: so does every call of a sequence of calls on one sink.
* `FaultPlan.obliging`: a planned sink without planned faults is obliging. -/

namespace TelemetryExport
namespace Frame

variable {σ : Type} {sink : Sink σ}

/-- Offered `offered` bytes again and again, the sink accepts some of them in the end. -/
inductive Sink.AcceptsSoon (sink : Sink σ) (offered : Nat) : σ → Prop
  | now {state state' : σ} {n : Nat} (hn : 0 < n)
      (h : sink.write state offered = (.accepts n, state')) : AcceptsSoon sink offered state
  | later {state state' : σ} (h : sink.write state offered = (.notReady, state'))
      (hl : AcceptsSoon sink offered state') : AcceptsSoon sink offered state

/-- Flushed again and again, the sink is done in the end. -/
inductive Sink.FlushesSoon (sink : Sink σ) : σ → Prop
  | now {state state' : σ} (h : sink.flush state = (.done, state')) : FlushesSoon sink state
  | later {state state' : σ} (h : sink.flush state = (.notReady, state'))
      (hl : FlushesSoon sink state') : FlushesSoon sink state

structure Sink.Obliging (sink : Sink σ) : Prop where
  accepts : ∀ state offered, 0 < offered → sink.AcceptsSoon offered state
  flushes : ∀ state, sink.FlushesSoon state

/-! ### Driving a call -/

theorem Sink.drive_sent (sink : Sink σ) (fuel : Nat) (state : σ) (accepted : Bytes) :
    sink.drive fuel state (.sent accepted) = (state, .sent accepted) := by
  cases fuel <;> rfl

/-- Some answers of the sink, one after the other, lead a call from one state to another. -/
inductive Sink.LeadsTo (sink : Sink σ) : σ → Sending → σ → Sending → Prop
  | refl (state : σ) (s : Sending) : LeadsTo sink state s state s
  | wrote {state state₁ state₂ : σ} {accepted rest : Bytes} {answer : WriteAnswer} {t : Sending}
      (h : sink.write state rest.length = (answer, state₁))
      (later : LeadsTo sink state₁ (Sending.wrote (.writing accepted rest) answer) state₂ t) :
      LeadsTo sink state (.writing accepted rest) state₂ t
  | flushed {state state₁ state₂ : σ} {accepted : Bytes} {answer : FlushAnswer} {t : Sending}
      (h : sink.flush state = (answer, state₁))
      (later : LeadsTo sink state₁ (Sending.flushed (.flushing accepted) answer) state₂ t) :
      LeadsTo sink state (.flushing accepted) state₂ t

theorem Sink.LeadsTo.trans {state₁ state₂ state₃ : σ} {s₁ s₂ s₃ : Sending}
    (h₁ : sink.LeadsTo state₁ s₁ state₂ s₂) (h₂ : sink.LeadsTo state₂ s₂ state₃ s₃) :
    sink.LeadsTo state₁ s₁ state₃ s₃ := by
  induction h₁ with
  | refl => exact h₂
  | wrote h _ ih => exact .wrote h (ih h₂)
  | flushed h _ ih => exact .flushed h (ih h₂)

/-- Enough answers carry the call that far, whatever more is allowed. -/
theorem Sink.LeadsTo.drive {state state' : σ} {s t : Sending}
    (h : sink.LeadsTo state s state' t) :
    ∃ enough, ∀ more, sink.drive (enough + more) state s = sink.drive more state' t := by
  induction h with
  | refl => exact ⟨0, fun more => by rw [Nat.zero_add]⟩
  | wrote h _ ih =>
      obtain ⟨enough, ih⟩ := ih
      refine ⟨enough + 1, fun more => ?_⟩
      rw [Nat.add_right_comm, Sink.drive, h]
      exact ih more
  | flushed h _ ih =>
      obtain ⟨enough, ih⟩ := ih
      refine ⟨enough + 1, fun more => ?_⟩
      rw [Nat.add_right_comm, Sink.drive, h]
      exact ih more

/-- A positive acceptance takes a nonempty part off the front of what is offered. -/
theorem Sending.wrote_accepts (accepted : Bytes) {rest : Bytes} {n : Nat} (hn : 0 < n)
    (hr : rest ≠ []) :
    Sending.wrote (.writing accepted rest) (.accepts n) =
      if rest.length ≤ n then .flushing (accepted ++ rest)
      else .writing (accepted ++ rest.take n) (rest.drop n) := by
  have htake : rest.take n ≠ [] := by
    rw [Ne, List.take_eq_nil_iff]
    rintro (h | h)
    · omega
    · exact hr h
  rw [Sending.wrote]
  split_ifs with hle
  · rw [List.take_of_length_le hle, List.drop_of_length_le hle]
    cases rest with
    | nil => exact absurd rfl hr
    | cons b rest => rfl
  · have hdrop : rest.drop n ≠ [] := by
      rw [Ne, List.drop_eq_nil_iff]
      exact hle
    cases ht : rest.take n with
    | nil => exact absurd ht htake
    | cons b part =>
        cases hd : rest.drop n with
        | nil => exact absurd hd hdrop
        | cons c rest => rfl

/-- Sooner or later the sink accepts a nonempty part of what is offered. -/
theorem Sink.AcceptsSoon.leadsTo {state : σ} (accepted : Bytes) {rest : Bytes}
    (h : sink.AcceptsSoon rest.length state) :
    ∃ n state', 0 < n ∧ sink.LeadsTo state (.writing accepted rest) state'
      (Sending.wrote (.writing accepted rest) (.accepts n)) := by
  induction h with
  | now hn h => exact ⟨_, _, hn, .wrote h (.refl _ _)⟩
  | later h _ ih =>
      obtain ⟨n, state', hn, hl⟩ := ih
      exact ⟨n, state', hn, .wrote h hl⟩

theorem Sink.FlushesSoon.leadsTo {state : σ} (accepted : Bytes) (h : sink.FlushesSoon state) :
    ∃ state', sink.LeadsTo state (.flushing accepted) state' (.sent accepted) := by
  induction h with
  | now h => exact ⟨_, .flushed h (.refl _ _)⟩
  | later h _ ih =>
      obtain ⟨state', hl⟩ := ih
      exact ⟨state', .flushed h hl⟩

/-- By induction on the number of bytes that are still to be accepted. -/
theorem Sink.Obliging.writing_leadsTo (hs : sink.Obliging) (state : σ) (accepted : Bytes)
    {rest : Bytes} (hr : rest ≠ []) :
    ∃ state', sink.LeadsTo state (.writing accepted rest) state' (.sent (accepted ++ rest)) := by
  have hsoon := hs.accepts state rest.length (List.length_pos_iff.mpr hr)
  obtain ⟨n, state₁, hn, h₁⟩ := hsoon.leadsTo accepted
  rw [Sending.wrote_accepts accepted hn hr] at h₁
  split_ifs at h₁ with hle
  · obtain ⟨state₂, h₂⟩ := (hs.flushes state₁).leadsTo (accepted ++ rest)
    exact ⟨state₂, h₁.trans h₂⟩
  · have hdrop : rest.drop n ≠ [] := by
      rw [Ne, List.drop_eq_nil_iff]
      exact hle
    obtain ⟨state₂, h₂⟩ := hs.writing_leadsTo state₁ (accepted ++ rest.take n) hdrop
    rw [List.append_assoc, List.take_append_drop] at h₂
    exact ⟨state₂, h₁.trans h₂⟩
termination_by rest.length
decreasing_by
  rw [List.length_drop]
  have := List.length_pos_iff.mpr hr
  omega

theorem length_ofPayload (payload : Bytes) :
    (ofPayload payload).length = lengthWidth + payload.length := by
  rw [ofPayload, List.length_append, length_bigEndian]

theorem ofPayload_ne_nil (payload : Bytes) : ofPayload payload ≠ [] := by
  intro h
  have hl := length_ofPayload payload
  rw [h, List.length_nil, lengthWidth] at hl
  omega

theorem Sink.Obliging.start_leadsTo (hs : sink.Obliging) (state : σ) {payload : Bytes}
    (hp : payload.length < lengthLimit) :
    ∃ state', sink.LeadsTo state (.start payload) state' (.sent (ofPayload payload)) := by
  rw [Sending.start, if_pos hp]
  exact hs.writing_leadsTo state [] (ofPayload_ne_nil payload)

/-- With enough answers a call on an obliging sink ends, and the whole frame was accepted. -/
theorem Sink.Obliging.drive_start (hs : sink.Obliging) (state : σ) {payload : Bytes}
    (hp : payload.length < lengthLimit) :
    ∃ enough state', ∀ fuel ≥ enough,
      sink.drive fuel state (.start payload) = (state', .sent (ofPayload payload)) := by
  obtain ⟨state', hleads⟩ := hs.start_leadsTo state hp
  obtain ⟨enough, h⟩ := hleads.drive
  refine ⟨enough, state', fun fuel hf => ?_⟩
  obtain ⟨more, rfl⟩ := Nat.exists_eq_add_of_le hf
  rw [h, drive_sent]

/-- Every call of a sequence of calls ends, each with its own frame. -/
theorem Sink.Obliging.sendAll_eq_map_sent (hs : sink.Obliging) (state : σ) {payloads : List Bytes}
    (hp : ∀ p ∈ payloads, p.length < lengthLimit) :
    ∃ enough, ∀ fuel : Bytes → Nat, (∀ p, enough ≤ fuel p) →
      (sink.sendAll fuel state payloads).2 = payloads.map fun p => .sent (ofPayload p) := by
  induction payloads generalizing state with
  | nil => exact ⟨0, fun _ _ => rfl⟩
  | cons p rest ih =>
      obtain ⟨m, state', hm⟩ := hs.drive_start state (hp p (List.mem_cons_self ..))
      obtain ⟨n, hn⟩ := ih state' fun q hq => hp q (List.mem_cons_of_mem p hq)
      refine ⟨max m n, fun fuel hf => ?_⟩
      have hfirst := hm (fuel p) (le_trans (le_max_left m n) (hf p))
      have hlater := hn fuel fun q => le_trans (le_max_right m n) (hf q)
      rw [sendAll, hfirst, List.map_cons]
      dsimp only
      rw [hlater]

/-! ### Planned sinks -/

namespace FaultPlan

variable {plan : FaultPlan}

/-- No fault is planned, and whatever the sink is offered it takes some of. -/
structure Faultless (plan : FaultPlan) : Prop where
  failAt : plan.failAt = none
  zeroAt : plan.zeroAt = none
  flushFails : plan.flushFails = false
  chunk : plan.chunk ≠ some 0

theorem Faultless.room_pos (hp : plan.Faultless) (total : Nat) {offered : Nat}
    (ho : 0 < offered) : 0 < plan.room total offered := by
  have hc := hp.chunk
  unfold room
  rw [hp.failAt, hp.zeroAt]
  cases hchunk : plan.chunk with
  | none => exact ho
  | some n =>
      rw [hchunk] at hc
      have hn : n ≠ 0 := fun h => hc (congrArg some h)
      exact Nat.lt_min.mpr ⟨ho, by omega⟩

theorem Faultless.acceptsSoon_of_ready (hp : plan.Faultless) {state : FaultRecord}
    (hr : state.hesitates = false) {offered : Nat} (ho : 0 < offered) :
    plan.sink.AcceptsSoon offered state := by
  have hw : plan.sink.write state offered = (.accepts (plan.room state.total offered),
      { state with
        hesitates := plan.hesitant
        total := state.total + plan.room state.total offered
        sizes := plan.room state.total offered :: state.sizes }) := by
    show plan.write state offered = _
    unfold write
    rw [hr, hp.failAt]
    rfl
  exact .now (hp.room_pos state.total ho) hw

/-- A hesitation is followed by an answer. -/
theorem Faultless.acceptsSoon (hp : plan.Faultless) (state : FaultRecord) {offered : Nat}
    (ho : 0 < offered) : plan.sink.AcceptsSoon offered state := by
  cases hr : state.hesitates with
  | false => exact hp.acceptsSoon_of_ready hr ho
  | true =>
      have hw : plan.sink.write state offered =
          (.notReady, { state with hesitates := false }) := by
        show plan.write state offered = _
        rw [write, hr]
        rfl
      exact .later hw (hp.acceptsSoon_of_ready rfl ho)

theorem obliging (hp : plan.Faultless) : plan.sink.Obliging where
  accepts state _ ho := hp.acceptsSoon state ho
  flushes state := by
    have hf : plan.sink.flush state = (.done, { state with flushes := state.flushes + 1 }) := by
      show plan.flush state = _
      rw [flush, hp.flushFails]
      rfl
    exact .now hf

end FaultPlan
end Frame
end TelemetryExport
