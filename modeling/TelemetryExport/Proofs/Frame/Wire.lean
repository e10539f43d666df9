import Mathlib.Data.List.Basic
import TelemetryExport.Proofs.Frame.Obliging

/-! # The wire

What reaches the other side of a sink is what the sink took out of the offers made to it.
`Sink.calls` lists, beside a call that `Sink.drive` carries on, everything that the sink is asked
in its course, with the answers, and `wire` puts together what was taken; neither looks at what
the call itself counts as accepted.

Whatever the answers are, the list grows by turns of the call (`Reaches`), and after each turn the
call is at a `Stage`: it offers what is left of the frame, or it has offered everything and waits
for the flush, or one answer has ended it.  `Talk.Orderly` is read off the stage, and
`Sink.talks_inOrder` says it of every call of a sequence and puts the wires of the calls one after
the other. -/

namespace TelemetryExport
namespace Frame

/-! ### What a sink is asked -/

/-- Something that a sink was asked, with its answer. -/
inductive SinkCall where
  | write (offered : Bytes) (answer : WriteAnswer)
  | flush (answer : FlushAnswer)
deriving DecidableEq, Repr

namespace SinkCall

/-- The bytes that the sink took. -/
def taken : SinkCall → Bytes
  | write offered (.accepts limit) => offered.take limit
  | _ => []

/-- What whoever sends a frame returns upon the answer, if it is the last one. -/
def result? : SinkCall → Option (Except IoError Unit)
  | write _ (.accepts 0) => some (.error .writeZero)
  | write _ (.fails e) => some (.error e)
  | flush .done => some (.ok ())
  | flush (.fails e) => some (.error e)
  | _ => none

/-- The sink was flushed, or could not be. -/
def endsFlush : SinkCall → Bool
  | flush .done => true
  | flush (.fails _) => true
  | _ => false

def isAnswered : SinkCall → Bool
  | write _ .notReady => false
  | flush .notReady => false
  | _ => true

end SinkCall

/-- The bytes that went through the sink. -/
def wire (calls : List SinkCall) : Bytes := calls.flatMap SinkCall.taken

@[simp] theorem wire_nil : wire [] = [] := rfl

@[simp] theorem wire_append (calls more : List SinkCall) :
    wire (calls ++ more) = wire calls ++ wire more := by
  simp [wire]

@[simp] theorem wire_singleton (c : SinkCall) : wire [c] = c.taken := by
  simp [wire]

/-- What a call that has ended returns. -/
def Sending.result? : Sending → Option (Except IoError Unit)
  | sent _ => some (.ok ())
  | failed _ e => some (.error e)
  | _ => none

/-- Everything that the sink is asked while `drive` carries the call on. -/
def Sink.calls {σ : Type} (sink : Sink σ) : (fuel : Nat) → σ → Sending → List SinkCall
  | 0, _, _ => []
  | fuel + 1, state, s =>
    match s with
    | .writing _ rest =>
      let (answer, state) := sink.write state rest.length
      .write rest answer :: sink.calls fuel state (s.wrote answer)
    | .flushing _ =>
      let (answer, state) := sink.flush state
      .flush answer :: sink.calls fuel state (s.flushed answer)
    | _ => []

/-! ### Turns -/

/-- One question of the call to the sink, and what its answer makes of the call. -/
inductive Sending.Turn : Sending → SinkCall → Sending → Prop
  | write (accepted rest : Bytes) (answer : WriteAnswer) :
      Turn (.writing accepted rest) (.write rest answer) (.wrote (.writing accepted rest) answer)
  | flush (accepted : Bytes) (answer : FlushAnswer) :
      Turn (.flushing accepted) (.flush answer) (.flushed (.flushing accepted) answer)

/-- A call that sends the payload can be at `s` once the sink has been asked `calls`. -/
inductive Reaches (payload : Bytes) : List SinkCall → Sending → Prop
  | start : Reaches payload [] (.start payload)
  | turn {calls : List SinkCall} {s t : Sending} {c : SinkCall} (h : Reaches payload calls s)
      (ht : s.Turn c t) : Reaches payload (calls ++ [c]) t

section Turns

variable {σ : Type} {sink : Sink σ} {payload : Bytes} {calls earlier : List SinkCall}
  {s t : Sending} {c : SinkCall}

/-- A call takes only such turns, whatever its sink answers. -/
theorem Reaches.drive (h : Reaches payload calls s) (fuel : Nat) (state : σ) :
    Reaches payload (calls ++ sink.calls fuel state s) (sink.drive fuel state s).2 := by
  induction fuel generalizing calls state s with
  | zero => simpa [Sink.calls, Sink.drive] using h
  | succ fuel ih =>
      cases s with
      | writing accepted rest =>
          have hturn := h.turn (.write accepted rest (sink.write state rest.length).1)
          have hlater := ih hturn (sink.write state rest.length).2
          rw [List.append_assoc] at hlater
          exact hlater
      | flushing accepted =>
          have hturn := h.turn (.flush accepted (sink.flush state).1)
          have hlater := ih hturn (sink.flush state).2
          rw [List.append_assoc] at hlater
          exact hlater
      | sent accepted => simpa [Sink.calls, Sink.drive] using h
      | failed accepted e => simpa [Sink.calls, Sink.drive] using h

theorem Reaches.concat_inv (h : Reaches payload (earlier ++ [c]) t) :
    ∃ s, Reaches payload earlier s ∧ s.Turn c t := by
  generalize hcalls : earlier ++ [c] = calls at h
  cases h with
  | start => simp at hcalls
  | turn h ht =>
      obtain ⟨rfl, hlast⟩ := List.append_inj' hcalls rfl
      cases hlast
      exact ⟨_, h, ht⟩

/-- What was asked so far was asked in a call of the same payload. -/
theorem Reaches.of_prefix (h : Reaches payload calls t) (hle : earlier <+: calls) :
    ∃ s, Reaches payload earlier s := by
  induction h with
  | start =>
      obtain rfl := List.prefix_nil.mp hle
      exact ⟨_, .start⟩
  | turn h ht ih =>
      rcases List.prefix_concat_iff.mp hle with rfl | hle
      · exact ⟨_, h.turn ht⟩
      · exact ih hle

/-- The call either has ended or goes on asking. -/
theorem Sink.result?_isSome_or (fuel : Nat) (state : σ) (s : Sending) :
    (sink.drive fuel state s).2.result?.isSome ∨ (sink.calls fuel state s).length = fuel := by
  induction fuel generalizing state s with
  | zero => exact .inr rfl
  | succ fuel ih =>
      cases s with
      | writing accepted rest => simpa [Sink.calls, Sink.drive] using ih _ _
      | flushing accepted => simpa [Sink.calls, Sink.drive] using ih _ _
      | sent accepted => exact .inl rfl
      | failed accepted e => exact .inl rfl

end Turns

/-! ### Stages -/

/-- All but `rest` of the frame was taken, and nothing has gone wrong. -/
structure Writes (frame : Bytes) (calls : List SinkCall) (rest : Bytes) : Prop where
  rest_ne_nil : rest ≠ []
  wire_append : wire calls ++ rest = frame
  pending : ∀ c ∈ calls, c.result? = none
  no_flush : ∀ answer, .flush answer ∉ calls
  answered_le : calls.countP SinkCall.isAnswered ≤ (wire calls).length

/-- All of the frame was taken, and the sink has not said yet how its flush went. -/
structure Flushes (frame : Bytes) (calls : List SinkCall) : Prop where
  wire_eq : wire calls = frame
  pending : ∀ c ∈ calls, c.result? = none
  answered_le : calls.countP SinkCall.isAnswered ≤ frame.length

/-- How far a call that sends the frame has come when its sink was asked `calls`. -/
inductive Stage (frame : Bytes) : List SinkCall → Sending → Prop
  | writing {calls : List SinkCall} {rest : Bytes} (h : Writes frame calls rest) :
      Stage frame calls (.writing (wire calls) rest)
  | flushing {calls : List SinkCall} (h : Flushes frame calls) : Stage frame calls (.flushing frame)
  | sent {calls : List SinkCall} (h : Flushes frame calls) :
      Stage frame (calls ++ [.flush .done]) (.sent frame)
  | refused {calls : List SinkCall} {rest : Bytes} {answer : WriteAnswer} {e : IoError}
      (h : Writes frame calls rest)
      (he : (SinkCall.write rest answer).result? = some (.error e)) :
      Stage frame (calls ++ [.write rest answer]) (.failed (wire calls) e)
  | unflushed {calls : List SinkCall} (e : IoError) (h : Flushes frame calls) :
      Stage frame (calls ++ [.flush (.fails e)]) (.failed frame e)

section Stages

variable {payload frame rest : Bytes} {calls : List SinkCall} {s t : Sending} {c : SinkCall}

theorem countP_isAnswered_concat_le (calls : List SinkCall) (c : SinkCall) :
    (calls ++ [c]).countP SinkCall.isAnswered ≤ calls.countP SinkCall.isAnswered + 1 := by
  have hlast := List.countP_le_length (p := SinkCall.isAnswered) (l := [c])
  rw [List.countP_append]
  exact Nat.add_le_add_left hlast _

theorem Writes.start (payload : Bytes) : Writes (ofPayload payload) [] (ofPayload payload) where
  rest_ne_nil := ofPayload_ne_nil payload
  wire_append := rfl
  pending := nofun
  no_flush := nofun
  answered_le := le_rfl

theorem Writes.notReady (h : Writes frame calls rest) :
    Writes frame (calls ++ [.write rest .notReady]) rest where
  rest_ne_nil := h.rest_ne_nil
  wire_append := by simpa [SinkCall.taken] using h.wire_append
  pending := by simpa [or_imp, forall_and, SinkCall.result?] using h.pending
  no_flush := by simpa using h.no_flush
  answered_le := by simpa [SinkCall.taken, SinkCall.isAnswered] using h.answered_le

theorem Writes.part (h : Writes frame calls rest) {n : Nat} (hn : n ≠ 0) (hlt : n < rest.length) :
    Writes frame (calls ++ [.write rest (.accepts n)]) (rest.drop n) where
  rest_ne_nil := by
    rw [Ne, List.drop_eq_nil_iff]
    omega
  wire_append := by simpa [SinkCall.taken] using h.wire_append
  pending := by simpa [or_imp, forall_and, SinkCall.result?, hn] using h.pending
  no_flush := by simpa using h.no_flush
  answered_le := by
    have hbefore := h.answered_le
    have hconcat := countP_isAnswered_concat_le calls (.write rest (.accepts n))
    have hlength : (wire (calls ++ [.write rest (.accepts n)])).length =
        (wire calls).length + n := by
      simpa [SinkCall.taken] using hlt.le
    omega

theorem Writes.all (h : Writes frame calls rest) {n : Nat} (hle : rest.length ≤ n) :
    Flushes frame (calls ++ [.write rest (.accepts n)]) where
  wire_eq := by
    simpa [SinkCall.taken, List.take_of_length_le hle] using h.wire_append
  pending := by
    have hn : n ≠ 0 := by
      have := List.length_pos_iff.mpr h.rest_ne_nil
      omega
    simpa [or_imp, forall_and, SinkCall.result?, hn] using h.pending
  answered_le := by
    have hbefore := h.answered_le
    have hrest := List.length_pos_iff.mpr h.rest_ne_nil
    have hconcat := countP_isAnswered_concat_le calls (.write rest (.accepts n))
    rw [← h.wire_append, List.length_append]
    omega

theorem Flushes.notReady (h : Flushes frame calls) :
    Flushes frame (calls ++ [.flush .notReady]) where
  wire_eq := by simpa [SinkCall.taken] using h.wire_eq
  pending := by simpa [or_imp, forall_and, SinkCall.result?] using h.pending
  answered_le := by simpa [SinkCall.isAnswered] using h.answered_le

/-- Each turn leads from a stage to a stage, one case for each answer. -/
theorem Stage.turn (h : Stage frame calls s) (ht : s.Turn c t) : Stage frame (calls ++ [c]) t := by
  cases ht with
  | write accepted rest answer =>
      cases h with
      | writing h =>
          cases answer with
          | notReady => simpa [Sending.wrote, SinkCall.taken] using Stage.writing h.notReady
          | fails e => exact .refused h rfl
          | accepts n =>
              rcases Nat.eq_zero_or_pos n with rfl | hn
              · exact .refused h rfl
              rw [Sending.wrote_accepts _ hn h.rest_ne_nil]
              split_ifs with hle
              · rw [h.wire_append]
                exact .flushing (h.all hle)
              · simpa [SinkCall.taken] using Stage.writing (h.part hn.ne' (by omega))
  | flush accepted answer =>
      cases h with
      | flushing h =>
          cases answer with
          | notReady => exact .flushing h.notReady
          | done => exact .sent h
          | fails e => exact .unflushed e h

theorem Reaches.stage (hp : payload.length < lengthLimit) (h : Reaches payload calls s) :
    Stage (ofPayload payload) calls s := by
  induction h with
  | start =>
      rw [Sending.start, if_pos hp]
      exact .writing (.start payload)
  | turn h ht ih => exact ih.turn ht

/-! ### What can be read off a stage -/

/-- With the answer that ends a call nothing is taken. -/
theorem SinkCall.taken_of_result? {r : Except IoError Unit} (h : c.result? = some r) :
    c.taken = [] := by
  cases c with
  | write offered answer =>
      cases answer with
      | accepts n =>
          cases n with
          | zero => rfl
          | succ n => cases h
      | notReady => rfl
      | fails e => rfl
  | flush answer => rfl

theorem SinkCall.result?_of_endsFlush (h : c.endsFlush = true) : c.result?.isSome := by
  cases c with
  | write offered answer => cases h
  | flush answer =>
      cases answer with
      | notReady => cases h
      | done => rfl
      | fails e => rfl

theorem countP_endsFlush {calls : List SinkCall} (h : ∀ c ∈ calls, c.result? = none) :
    calls.countP SinkCall.endsFlush = 0 := by
  rw [List.countP_eq_zero]
  intro c hc hend
  have hsome := SinkCall.result?_of_endsFlush hend
  rw [h c hc] at hsome
  cases hsome

/-- While something is left to be taken, the wire is not the frame. -/
theorem Writes.wire_ne (h : Writes frame calls rest) : wire calls ≠ frame := by
  intro heq
  have hwire := h.wire_append
  rw [heq, List.append_right_eq_self] at hwire
  exact h.rest_ne_nil hwire

theorem Stage.accepted_eq (h : Stage frame calls s) : s.accepted = wire calls := by
  cases h with
  | writing h => rfl
  | flushing h => exact h.wire_eq.symm
  | sent h => simp [Sending.accepted, SinkCall.taken, h.wire_eq]
  | refused h he => simp [Sending.accepted, SinkCall.taken_of_result? he]
  | unflushed e h => simp [Sending.accepted, SinkCall.taken, h.wire_eq]

theorem Stage.wire_begins (h : Stage frame calls s) : wire calls <+: frame := by
  rw [← h.accepted_eq]
  cases h with
  | writing h => exact ⟨_, h.wire_append⟩
  | flushing h => exact List.prefix_refl _
  | sent h => exact List.prefix_refl _
  | refused h he => exact ⟨_, h.wire_append⟩
  | unflushed e h => exact List.prefix_refl _

/-- A call either goes on, or its last answer has ended it. -/
theorem Stage.pending_or_ended (h : Stage frame calls s) :
    ((∀ c ∈ calls, c.result? = none) ∧ s.result? = none) ∨
      ∃ earlier c r, calls = earlier ++ [c] ∧ (∀ c ∈ earlier, c.result? = none) ∧
        c.result? = some r ∧ s.result? = some r := by
  cases h with
  | writing h => exact .inl ⟨h.pending, rfl⟩
  | flushing h => exact .inl ⟨h.pending, rfl⟩
  | sent h => exact .inr ⟨_, _, _, rfl, h.pending, rfl, rfl⟩
  | refused h he => exact .inr ⟨_, _, _, rfl, h.pending, he, rfl⟩
  | unflushed e h => exact .inr ⟨_, _, _, rfl, h.pending, rfl, rfl⟩

theorem Stage.result?_eq_some_iff (h : Stage frame calls s) (r : Except IoError Unit) :
    s.result? = some r ↔ ∃ c ∈ calls, c.result? = some r := by
  rcases h.pending_or_ended with ⟨hpending, hs⟩ | ⟨earlier, c, r', rfl, hpending, hc, hs⟩
  · rw [hs]
    simpa using fun c hmem => by simp [hpending c hmem]
  · rw [hs, ← hc]
    constructor
    · intro hr
      exact ⟨c, by simp, hr⟩
    · rintro ⟨c', hmem, hr⟩
      rcases List.mem_append.mp hmem with hmem | hmem
      · rw [hpending c' hmem] at hr
        cases hr
      · rwa [List.mem_singleton.mp hmem] at hr

/-- Nothing comes after the answer that ends a call. -/
theorem Stage.eq_nil_of_result? (h : Stage frame calls s) {earlier later : List SinkCall}
    (heq : calls = earlier ++ c :: later) (hc : c.result?.isSome) : later = [] := by
  rcases h.pending_or_ended with ⟨hpending, hs⟩ | ⟨before, c', r, rfl, hpending, -, -⟩
  · rw [hpending c (by simp [heq])] at hc
    cases hc
  · rcases List.eq_nil_or_concat later with rfl | ⟨more, last, rfl⟩
    · rfl
    · rw [List.concat_eq_append, ← List.cons_append, ← List.append_assoc] at heq
      obtain ⟨rfl, -⟩ := List.append_inj' heq rfl
      rw [hpending c (by simp)] at hc
      cases hc

theorem Stage.ok_iff (h : Stage frame calls s) :
    s.result? = some (.ok ()) ↔ wire calls = frame ∧ .flush .done ∈ calls := by
  cases h with
  | writing h => simp [Sending.result?, h.no_flush]
  | flushing h =>
      have hdone : .flush .done ∉ calls := fun hmem => nomatch h.pending _ hmem
      simp [Sending.result?, hdone]
  | sent h => simp [Sending.result?, SinkCall.taken, h.wire_eq]
  | refused h he => simp [Sending.result?, h.no_flush]
  | @unflushed calls e h =>
      have hdone : .flush .done ∉ calls := fun hmem => nomatch h.pending _ hmem
      simp [Sending.result?, hdone]

/-- A call that has ended has flushed once if the sink took the whole frame. -/
theorem Stage.flushed_once (h : Stage frame calls s) (hend : s.result?.isSome) :
    calls.countP SinkCall.endsFlush = if wire calls = frame then 1 else 0 := by
  cases h with
  | writing h => cases hend
  | flushing h => cases hend
  | sent h => simp [countP_endsFlush h.pending, h.wire_eq, SinkCall.endsFlush, SinkCall.taken]
  | refused h he =>
      simp [countP_endsFlush h.pending, h.wire_ne, SinkCall.endsFlush,
        SinkCall.taken_of_result? he]
  | unflushed e h =>
      simp [countP_endsFlush h.pending, h.wire_eq, SinkCall.endsFlush, SinkCall.taken]

/-- Each answer but the last takes a byte. -/
theorem Stage.answered_le (h : Stage frame calls s) :
    calls.countP SinkCall.isAnswered ≤ frame.length + 1 := by
  cases h with
  | writing h => exact h.answered_le.trans (by rw [← h.wire_append, List.length_append]; omega)
  | flushing h => exact h.answered_le.trans (Nat.le_succ _)
  | sent h => exact (countP_isAnswered_concat_le _ _).trans (Nat.succ_le_succ h.answered_le)
  | refused h he =>
      have hbefore := h.answered_le
      refine (countP_isAnswered_concat_le _ _).trans ?_
      rw [← h.wire_append, List.length_append]
      omega
  | unflushed e h => exact (countP_isAnswered_concat_le _ _).trans (Nat.succ_le_succ h.answered_le)

end Stages

/-! ### Every call of a sequence -/

/-- A call, with what it sends and what it has asked its sink. -/
structure Talk where
  payload : Bytes
  calls : List SinkCall
  sending : Sending

/-- The call that sends one payload. -/
def Sink.talk {σ : Type} (sink : Sink σ) (fuel : Nat) (state : σ) (payload : Bytes) : Talk :=
  ⟨payload, sink.calls fuel state (.start payload), (sink.drive fuel state (.start payload)).2⟩

/-- The calls that `sendAll` makes, each on the sink as the one before has left it. -/
def Sink.talks {σ : Type} (sink : Sink σ) (fuel : Bytes → Nat) : σ → List Bytes → List Talk
  | _, [] => []
  | state, payload :: rest =>
    sink.talk (fuel payload) state payload ::
      sink.talks fuel (sink.drive (fuel payload) state (.start payload)).1 rest

/-- What the call leaves on the wire: all of its frame, or what was accepted before it failed. -/
def Talk.part (t : Talk) : Bytes :=
  match t.sending with
  | .sent _ => ofPayload t.payload
  | s => s.accepted

/-- What is true of a call, whatever its sink answers. -/
structure Talk.Orderly (t : Talk) : Prop where
  /-- The call is where these answers take it. -/
  reaches : Reaches t.payload t.calls t.sending
  /-- At every moment the wire is a beginning of the frame. -/
  begins : ∀ earlier, earlier <+: t.calls → wire earlier <+: ofPayload t.payload
  /-- What is offered is what is left of the frame, so no byte is repeated, skipped or moved. -/
  offers : ∀ earlier offered answer, earlier ++ [.write offered answer] <+: t.calls →
    wire earlier ++ offered = ofPayload t.payload
  /-- What the call counts as accepted is what is on the wire. -/
  accepted_eq : t.sending.accepted = wire t.calls
  /-- It succeeds just when all of the frame is on the wire and the flush was done. -/
  ok_iff : t.sending.result? = some (.ok ()) ↔
    wire t.calls = ofPayload t.payload ∧ .flush .done ∈ t.calls
  /-- It returns what the sink's answers make it return: `writeZero` if nothing was accepted, and
  the sink's own error if the sink failed. -/
  result_iff : ∀ r, t.sending.result? = some r ↔ ∃ c ∈ t.calls, c.result? = some r
  /-- The sink is not asked again after the answer that ended the call, and with that answer
  nothing was taken. -/
  ended : ∀ earlier c later, t.calls = earlier ++ c :: later → c.result?.isSome →
    later = [] ∧ wire t.calls = wire earlier
  /-- The sink is not asked to flush before all of the frame is on the wire. -/
  flushes_late : ∀ earlier answer, earlier ++ [.flush answer] <+: t.calls →
    wire earlier = ofPayload t.payload
  /-- Once the call has ended, it has flushed once if all of the frame is on the wire. -/
  flushed_once : t.sending.result?.isSome → t.calls.countP SinkCall.endsFlush =
    if wire t.calls = ofPayload t.payload then 1 else 0
  /-- It takes no more answers than its frame has bytes, and one. -/
  answered_le : t.calls.countP SinkCall.isAnswered ≤ lengthWidth + t.payload.length + 1

section Talks

variable {σ : Type} (sink : Sink σ)

theorem Sink.talk_orderly (fuel : Nat) (state : σ) {payload : Bytes}
    (hp : payload.length < lengthLimit) : (sink.talk fuel state payload).Orderly := by
  have hreaches : Reaches payload (sink.talk fuel state payload).calls
      (sink.talk fuel state payload).sending := Reaches.start.drive fuel state
  have hstage := hreaches.stage hp
  constructor
  case reaches => exact hreaches
  case begins =>
    intro earlier hle
    obtain ⟨s, hs⟩ := hreaches.of_prefix hle
    exact (hs.stage hp).wire_begins
  case offers =>
    intro earlier offered answer hle
    obtain ⟨t, ht⟩ := hreaches.of_prefix hle
    obtain ⟨s, hs, hturn⟩ := ht.concat_inv
    have hearlier := hs.stage hp
    cases hturn
    cases hearlier with
    | writing h => exact h.wire_append
  case accepted_eq => exact hstage.accepted_eq
  case ok_iff => exact hstage.ok_iff
  case result_iff => exact hstage.result?_eq_some_iff
  case ended =>
    intro earlier c later heq hc
    have hlater := hstage.eq_nil_of_result? heq hc
    obtain ⟨r, hr⟩ := Option.isSome_iff_exists.mp hc
    refine ⟨hlater, ?_⟩
    rw [heq, hlater]
    simp [SinkCall.taken_of_result? hr]
  case flushes_late =>
    intro earlier answer hle
    obtain ⟨t, ht⟩ := hreaches.of_prefix hle
    obtain ⟨s, hs, hturn⟩ := ht.concat_inv
    have hearlier := hs.stage hp
    cases hturn
    cases hearlier with
    | flushing h => exact h.wire_eq
  case flushed_once => exact hstage.flushed_once
  case answered_le =>
    rw [← length_ofPayload]
    exact hstage.answered_le

theorem Talk.Orderly.part_eq {t : Talk} (h : t.Orderly) : t.part = wire t.calls := by
  rw [← h.accepted_eq, Talk.part]
  split
  · rename_i accepted heq
    have hok : t.sending.result? = some (.ok ()) := by rw [heq]; rfl
    rw [h.accepted_eq, (h.ok_iff.mp hok).1]
  · rfl

theorem Sink.map_payload_talks (fuel : Bytes → Nat) (state : σ) (payloads : List Bytes) :
    (sink.talks fuel state payloads).map Talk.payload = payloads := by
  induction payloads generalizing state with
  | nil => rfl
  | cons payload rest ih => simp [Sink.talks, Sink.talk, ih]

theorem Sink.map_sending_talks (fuel : Bytes → Nat) (state : σ) (payloads : List Bytes) :
    (sink.talks fuel state payloads).map Talk.sending = (sink.sendAll fuel state payloads).2 := by
  induction payloads generalizing state with
  | nil => rfl
  | cons payload rest ih => simp [Sink.talks, Sink.talk, Sink.sendAll, ih]

/-- Every call of the sequence is a call on the sink in some state. -/
theorem Sink.exists_talk_eq {fuel : Bytes → Nat} {state : σ} {payloads : List Bytes} {t : Talk}
    (h : t ∈ sink.talks fuel state payloads) :
    ∃ payload ∈ payloads, ∃ state, t = sink.talk (fuel payload) state payload := by
  induction payloads generalizing state with
  | nil => cases h
  | cons payload rest ih =>
      rcases List.mem_cons.mp h with rfl | h
      · exact ⟨payload, List.mem_cons_self .., state, rfl⟩
      · obtain ⟨payload', hmem, found⟩ := ih h
        exact ⟨payload', List.mem_cons_of_mem payload hmem, found⟩

/-- What is true of a sequence of calls on one sink. -/
structure InOrder (fuel : Bytes → Nat) (state : σ) (payloads : List Bytes) : Prop where
  /-- There is one call for each payload, -/
  payloads_eq : (sink.talks fuel state payloads).map Talk.payload = payloads
  /-- and the calls come out as `sendAll` says. -/
  sendings_eq : (sink.talks fuel state payloads).map Talk.sending =
    (sink.sendAll fuel state payloads).2
  orderly : ∀ t ∈ sink.talks fuel state payloads, t.Orderly
  /-- A call ends, unless it is given no more answers. -/
  ended_or : ∀ t ∈ sink.talks fuel state payloads,
    t.sending.result?.isSome ∨ t.calls.length = fuel t.payload
  /-- The wire is what the calls leave on it, one after the other. -/
  wire_eq : wire ((sink.talks fuel state payloads).flatMap Talk.calls) =
    (sink.talks fuel state payloads).flatMap Talk.part

/-- **The wire is in order.**  Whatever a sink answers to a sequence of calls, each call puts a
beginning of its own frame on the wire and all of it if it succeeds, in the order of the calls. -/
theorem Sink.talks_inOrder (fuel : Bytes → Nat) (state : σ) {payloads : List Bytes}
    (hp : ∀ p ∈ payloads, p.length < lengthLimit) : InOrder sink fuel state payloads := by
  have horderly : ∀ t ∈ sink.talks fuel state payloads, t.Orderly := by
    intro t ht
    obtain ⟨payload, hmem, state, rfl⟩ := sink.exists_talk_eq ht
    exact sink.talk_orderly _ _ (hp payload hmem)
  refine ⟨sink.map_payload_talks fuel state payloads, sink.map_sending_talks fuel state payloads,
    horderly, ?_, ?_⟩
  · intro t ht
    obtain ⟨payload, -, state, rfl⟩ := sink.exists_talk_eq ht
    exact Sink.result?_isSome_or _ _ _
  · rw [wire, List.flatMap_assoc]
    exact (List.flatMap_congr fun t ht => (horderly t ht).part_eq).symm

/-- A sink that hesitates before every write, takes three bytes at a time and nothing more after
ten: the first of two frames goes out whole, the second breaks off at its length. -/
theorem Sink.talks_inOrder_interrupted :
    let plan : FaultPlan := ⟨some 3, none, some 10, false, true, .writeZero⟩
    let payloads : List Bytes := [[1, 2], [7, 8, 9]]
    (∀ p ∈ payloads, p.length < lengthLimit) ∧
      (plan.sendAll plan.fresh payloads).2.map Sending.result? =
        [some (.ok ()), some (.error .writeZero)] ∧
      wire ((plan.sink.talks FaultPlan.fuel plan.fresh payloads).flatMap Talk.calls) =
        [0, 0, 0, 2, 1, 2, 0, 0, 0, 3] ∧
      InOrder plan.sink FaultPlan.fuel plan.fresh payloads := by
  intro plan payloads
  have hp : ∀ p ∈ payloads, p.length < lengthLimit := by decide
  exact ⟨hp, by decide, by decide, Sink.talks_inOrder _ _ _ hp⟩

end Talks

end Frame
end TelemetryExport
