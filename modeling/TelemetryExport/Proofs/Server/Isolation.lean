import TelemetryExport.Proofs.Server.Exchange
import TelemetryExport.Proofs.Server.Slots

/-! # Isolation

Of all that happens in a server only its own events count for a client.  `Share` says what a step
makes of one client, and by induction each client of a run is just where its own events take it,
and where they take it when nobody else is served (`own_of_run?`).  So what is true of every
exchange is true of every client, in whatever order clients, workers and the stop are served.

What is written in an exchange begins `response`, which the command and the answer of the store
decide on; and once nothing can go wrong any more, these decide on all of it (`run_eq_settled`).
`run?_isolated` collects this, and that nothing but the stop ends the accepting. -/

namespace TelemetryExport
namespace Server

/-! ### What decides on an exchange -/

/-- The frame of the records, if they can be encoded and sent. -/
def responseTo : Except StoreFailure (List Record) → Bytes
  | .error _ => []
  | .ok records =>
    match Payload.encode records with
    | .error _ => []
    | .ok payload => if payload.length < Frame.lengthLimit then Frame.ofPayload payload else []

/-- The one frame that may be written to a client that sent the flag and whose query got the
answer; it is empty where nothing may be written. -/
def response (r : Resolver) (flag : Option UInt8)
    (answer : Option (Except StoreFailure (List Record))) : Bytes :=
  if flag = some 1 ∧ (r.pusher []).2 = statusOk then (answer.map responseTo).getD [] else []

/-- Where an exchange ends that the store answers and that nothing goes wrong for from then on. -/
def Phase.settled : Except StoreFailure (List Record) → Phase
  | .error e => .failed (.store e)
  | .ok records =>
    match Payload.encode records with
    | .error e => .failed (.payload e)
    | .ok payload => .ended (Frame.ofPayload payload) (.ok ⟨records.length, payload.length⟩)

/-- How the wait for the command ended. -/
def openedWith? (events : List Event) : Option Opening := (opening? events).map (·.1)

namespace Exchange

variable {r : Resolver} {events : List Event}

/-- The exchange has ended, and neither reading nor writing failed. -/
def Completed (x : Exchange) : Prop :=
  ∃ outcome, x.outcome? = some outcome ∧ ∀ cause, outcome ≠ .error (.io cause)

/-- The end of an exchange that was opened so and whose query, if it has one, is answered so. -/
def settled (r : Resolver) (o : Opening) (a : Except StoreFailure (List Record)) : Exchange :=
  match (opened r o).phase with
  | .querying _ => { opened r o with phase := .settled a }
  | _ => opened r o

theorem response_eq {records : List Record} {payload : Bytes} (hf : flag? events = some 1)
    (hs : (r.pusher []).2 = statusOk) (ha : Answers events records payload)
    (hl : payload.length < Frame.lengthLimit) :
    response r (flag? events) (answer? events) = Frame.ofPayload payload := by
  unfold response responseTo
  rw [if_pos ⟨hf, hs⟩, ha.answer, Option.map_some, Option.getD_some]
  dsimp only
  rw [ha.encode]
  exact if_pos hl

theorem Stage.begins_response {x : Exchange} (h : Stage r events x) :
    x.wire <+: response r (flag? events) (answer? events) := by
  cases h with
  | answering hf hs ha hl hp => exact response_eq hf hs ha hl ▸ hp.wire_begins
  | _ => exact List.nil_prefix

theorem Stage.wire_eq_response {x : Exchange} (h : Stage r events x) {sent : Sent}
    (ho : x.outcome? = some (.ok sent)) : x.wire = response r (flag? events) (answer? events) := by
  cases h with
  | answering hf hs ha hl hp =>
      obtain ⟨wire, rfl⟩ := phase_of_outcome? ho
      rw [response_eq hf hs ha hl]
      exact hp.2
  | _ => cases ho

/-- From the answer of the store on. -/
theorem run_ofAnswer_eq_settled {a : Except StoreFailure (List Record)} {consumed : Nat}
    {pushed : List Bytes} {asked : List Query} {later : List Event}
    (h : (run r ⟨.ofAnswer a, consumed, pushed, asked⟩ later).Completed) :
    run r ⟨.ofAnswer a, consumed, pushed, asked⟩ later =
      ⟨.settled a, consumed, pushed, asked⟩ := by
  cases a with
  | error e => exact run_of_outcome? r (o := .error (.store e)) rfl later
  | ok records =>
      obtain ⟨outcome, ho, hio⟩ := h
      cases he : Payload.encode records with
      | error e =>
          rw [Phase.ofAnswer, Phase.settled, he]
          exact run_of_outcome? r (o := .error (.payload e)) rfl later
      | ok payload =>
          have htowards := run_towards r
            (x := ⟨.ofAnswer (.ok records), consumed, pushed, asked⟩) (.ofAnswer he) later
          obtain ⟨wire, hphase⟩ := phase_of_outcome? ho
          rw [hphase] at htowards
          rw [run_opened r (ofAnswer_ne_awaiting (.ok records)), hphase, Phase.settled, he]
          cases outcome with
          | ok sent =>
              obtain ⟨rfl, rfl⟩ := htowards
              rfl
          | error e =>
              cases e with
              | io cause => exact absurd rfl (hio cause)
              | _ => exact htowards.elim

/-- An open exchange asks the store, or it is over. -/
theorem opened_eq (r : Resolver) (o : Opening) :
    (∃ q, opened r o = ⟨.querying q, 1, [[]], [q]⟩) ∨
      ∃ e, (opened r o).phase = .ended [] (.error e) := by
  cases o with
  | flag value =>
      rcases command_eq r value with ⟨q, hc, -⟩ | ⟨e, hc, -⟩
      · exact .inl ⟨q, hc⟩
      · refine .inr ⟨.protocol e, ?_⟩
        rw [opened, hc]
        rfl
  | closed => exact .inr ⟨.protocol .disconnected, rfl⟩
  | timedOut => exact .inr ⟨.protocol .timeout, rfl⟩
  | readFailed e => exact .inr ⟨.io e, rfl⟩

/-- The opening and the answer decide on an exchange that ends without an I/O error. -/
theorem run_eq_settled {o : Opening} {a : Except StoreFailure (List Record)}
    (ho : openedWith? events = some o) (ha : ∀ result, answer? events = some result → result = a)
    (h : (run r start events).Completed) : run r start events = settled r o a := by
  obtain ⟨⟨o, later⟩, hopening, rfl⟩ := Option.map_eq_some_iff.mp ho
  rw [run_start, hopening] at h ⊢
  dsimp only at h ⊢
  unfold settled
  rcases opened_eq r o with ⟨q, hopened⟩ | ⟨e, hended⟩
  · rw [hopened, run_querying] at h ⊢
    cases hfirst : firstAnswer? later with
    | none =>
        rw [hfirst] at h
        obtain ⟨outcome, hout, -⟩ := h
        cases hout
    | some p =>
        have hresult : answer? events = some p.1 := by
          rw [answer?, hopening, Option.bind_some, hfirst]
          rfl
        rw [hfirst] at h
        dsimp only at h ⊢
        rw [ha p.1 hresult] at h ⊢
        exact run_ofAnswer_eq_settled h
  · have hout : (opened r o).outcome? = some (.error e) := by
      rw [outcome?, hended]
      rfl
    rw [run_of_outcome? r hout, hended]

/-- Two exchanges with one opening and one answer end alike, if they do so without an I/O error. -/
theorem run_eq_run {events' : List Event} {a : Except StoreFailure (List Record)}
    (ho : openedWith? events = openedWith? events')
    (ha : ∀ result, answer? events = some result → result = a)
    (ha' : ∀ result, answer? events' = some result → result = a)
    (h : (run r start events).Completed) (h' : (run r start events').Completed) :
    run r start events = run r start events' := by
  cases hopened : openedWith? events with
  | none =>
      rw [openedWith?, Option.map_eq_none_iff] at hopened
      rw [run_start, hopened] at h
      obtain ⟨outcome, hout, -⟩ := h
      cases hout
  | some o => rw [run_eq_settled hopened ha h, run_eq_settled (ho ▸ hopened) ha' h']

end Exchange

/-! ### Each client on its own -/

/-- The event, if it is one of the client numbered `index`. -/
def Step.eventOf? (index : Nat) : Step → Option Event
  | .event i e => if i = index then some e else none
  | _ => none

/-- What happens to the client numbered `index` in a run. -/
def eventsOf (index : Nat) (steps : List Step) : List Event :=
  steps.filterMap (Step.eventOf? index)

/-- A run of a server with one client only. -/
def alone (peer : String) (events : List Event) : List Step :=
  .takeSlot :: .accept peer :: events.map (.event 0)

variable {r : Resolver}

/-- What a step makes of the client numbered `index`. -/
inductive Share (r : Resolver) (index : Nat) : Option Connection → Step → Option Connection → Prop
  | others {e : Step} (c : Option Connection) (he : e.eventOf? index = none) : Share r index c e c
  | accepted (peer : String) : Share r index none (.accept peer) (some ⟨peer, .start⟩)
  | event (c : Connection) (e : Event) (hr : c.isRunning = true) :
      Share r index (some c) (.event index e) (some ⟨c.peer, c.exchange.step r e⟩)

theorem Share.of_set {cs : List Connection} {i : Nat} {c : Connection} {e : Event}
    (hc : cs[i]? = some c) (hr : c.isRunning = true) (index : Nat) :
    Share r index cs[index]? (.event i e)
      (cs.set i ⟨c.peer, c.exchange.step r e⟩)[index]? := by
  by_cases hi : i = index
  · subst hi
    obtain ⟨hlt, -⟩ := List.getElem?_eq_some_iff.mp hc
    rw [List.getElem?_set_self hlt, hc]
    exact .event c e hr
  · rw [List.getElem?_set_ne hi]
    exact .others _ (if_neg hi)

theorem Share.of_append (cs : List Connection) (peer : String) (index : Nat) :
    Share r index cs[index]? (.accept peer) (cs ++ [⟨peer, .start⟩])[index]? := by
  rcases Nat.lt_trichotomy index cs.length with hlt | rfl | hgt
  · rw [List.getElem?_append_left hlt]
    exact .others _ rfl
  · rw [List.getElem?_concat_length, List.getElem?_eq_none le_rfl]
    exact .accepted peer
  · rw [List.getElem?_eq_none hgt.le, List.getElem?_eq_none]
    · exact .others _ rfl
    · rw [List.length_append]
      exact hgt

/-- **A step touches one client at most**, and only by an event of its own. -/
theorem Move.share {s t : State} {e : Step} (h : Move r s e t) (index : Nat) :
    Share r index s.connections[index]? e t.connections[index]? := by
  cases h with
  | accept peer => exact .of_append s.connections peer index
  | goesOn hc hr => exact .of_set hc hr index
  | ends hc hr => exact .of_set hc hr index
  | _ => exact .others _ rfl

theorem run?_append (s : State) (steps more : List Step) :
    s.run? r (steps ++ more) = (s.run? r steps).bind (·.run? r more) := by
  induction steps generalizing s with
  | nil => rfl
  | cons e rest ih =>
      rw [List.cons_append, State.run?, State.run?, Option.bind_assoc]
      exact congrArg _ (funext ih)

/-- What is true at the start and kept by every step is true after a run. -/
theorem invariant_of_run? {motive : List Step → State → Prop} {s t : State} {steps : List Step}
    (hrun : s.run? r steps = some t) (hstart : motive [] s)
    (hstep : ∀ steps u e v, motive steps u → Move r u e v → motive (steps ++ [e]) v) :
    motive steps t := by
  induction steps using List.reverseRecOn generalizing t with
  | nil =>
      cases hrun
      exact hstart
  | append_singleton steps e ih =>
      rw [run?_append, Option.bind_eq_some_iff] at hrun
      obtain ⟨u, hu, hlast⟩ := hrun
      rw [State.run?, Option.bind_eq_some_iff] at hlast
      obtain ⟨v, hv, hlast⟩ := hlast
      cases hlast
      exact hstep steps u e t (ih hu) (move_of_step? hv)

/-- A client that is where its own events take it. -/
structure Own (r : Resolver) (events : List Event) (c : Connection) : Prop where
  exchange_eq : c.exchange = Exchange.run r .start events
  /-- They take it there too when it is the only client of a server. -/
  alone : ∀ m, ∃ t, (State.start m).run? r (alone c.peer events) = some t ∧ t.connections = [c]

theorem Own.start (r : Resolver) (peer : String) : Own r [] ⟨peer, .start⟩ := by
  refine ⟨rfl, fun m => ?_⟩
  have htake : (State.start m).step? r .takeSlot =
      some { State.start m with acceptor := .holding, free := capacity m - 1 } :=
    if_pos ⟨rfl, capacity_pos m⟩
  rw [Server.alone, State.run?, htake]
  exact ⟨_, rfl, rfl⟩

/-- The only client of a server can be served. -/
theorem exists_step?_event {u : State} {c : Connection} (hu : u.connections = [c])
    (hr : c.isRunning = true) (e : Event) :
    ∃ v, u.step? r (.event 0 e) = some v ∧ v.connections = [⟨c.peer, c.exchange.step r e⟩] := by
  have hguard : (guard (c.isRunning = true) : Option Unit) = some () := by
    rw [hr]
    rfl
  rw [State.step?, State.exchangeStep?, hu, List.getElem?_cons_zero, Option.bind_eq_bind,
    Option.bind_some, hguard, Option.bind_eq_bind, Option.bind_some]
  dsimp only
  cases (c.exchange.step r e).outcome? <;> exact ⟨_, rfl, rfl⟩

theorem Own.event {events : List Event} {c : Connection} (h : Own r events c)
    (hr : c.isRunning = true) (e : Event) :
    Own r (events ++ [e]) ⟨c.peer, c.exchange.step r e⟩ := by
  refine ⟨?_, fun m => ?_⟩
  · rw [h.exchange_eq, Exchange.run, Exchange.run, List.foldl_append]
    rfl
  · obtain ⟨u, hrun, hu⟩ := h.alone m
    obtain ⟨v, hv, hconnections⟩ := exists_step?_event hu hr e
    refine ⟨v, ?_, hconnections⟩
    have hsnoc : Server.alone c.peer (events ++ [e]) =
        Server.alone c.peer events ++ [.event 0 e] := by
      simp only [Server.alone, List.map_append, List.map_cons, List.map_nil, List.cons_append]
    rw [hsnoc, run?_append, hrun, Option.bind_some, State.run?, hv]
    rfl

theorem eventsOf_concat (index : Nat) (steps : List Step) (e : Step) :
    eventsOf index (steps ++ [e]) = eventsOf index steps ++ (e.eventOf? index).toList := by
  rw [eventsOf, List.filterMap_append, List.filterMap_cons, List.filterMap_nil]
  cases e.eventOf? index <;> rfl

/-- A number stands for no client and no events, or for a client that is where its own events
take it. -/
def OwnAt (r : Resolver) (events : List Event) : Option Connection → Prop
  | none => events = []
  | some c => Own r events c

theorem OwnAt.share {events : List Event} {index : Nat} {before after : Option Connection}
    {e : Step} (h : OwnAt r events before) (hshare : Share r index before e after) :
    OwnAt r (events ++ (e.eventOf? index).toList) after := by
  cases hshare with
  | others c he =>
      rw [he, Option.toList_none, List.append_nil]
      exact h
  | accepted peer =>
      obtain rfl : events = [] := h
      exact Own.start r peer
  | event c e hr =>
      have he : (Step.event index e).eventOf? index = some e := if_pos rfl
      rw [he]
      exact Own.event h hr e

theorem own_of_run? {n : Nat} {s : State} {steps : List Step}
    (hrun : (State.start n).run? r steps = some s) (index : Nat) :
    OwnAt r (eventsOf index steps) s.connections[index]? := by
  refine invariant_of_run?
    (motive := fun steps s => OwnAt r (eventsOf index steps) s.connections[index]?) hrun rfl ?_
  intro steps u e v ih hmove
  rw [eventsOf_concat]
  exact ih.share (hmove.share index)

/-! ### The accepting -/

theorem Move.acceptor_eq_stopped_iff {s t : State} {e : Step} (h : Move r s e t) :
    t.acceptor = .stopped ↔ s.acceptor = .stopped ∨ e = .stop := by
  cases h with
  | takeSlot ha hf => simp [ha]
  | accept peer ha => simp [ha]
  | acceptFails e ha => simp [ha]
  | resume ha => simp [ha]
  | stop ha => simp
  | _ => simp [State.report]

theorem acceptor_eq_stopped_iff_of_run? {n : Nat} {s : State} {steps : List Step}
    (hrun : (State.start n).run? r steps = some s) :
    s.acceptor = .stopped ↔ .stop ∈ steps := by
  refine invariant_of_run? (motive := fun steps s => s.acceptor = .stopped ↔ .stop ∈ steps)
    hrun ?_ ?_
  · exact ⟨nofun, fun h => absurd h List.not_mem_nil⟩
  · intro steps u e v ih hmove
    rw [hmove.acceptor_eq_stopped_iff, ih, List.mem_append, List.mem_singleton, eq_comm]

/-- The server can accept the next client by itself: no client has to do anything for it. -/
def AcceptsNext (r : Resolver) (s : State) (peer : String) : Prop :=
  ∃ more t, s.run? r more = some t ∧ t.connections = s.connections ++ [⟨peer, .start⟩] ∧
    .stop ∉ more ∧ ∀ index, eventsOf index more = []

theorem AcceptsNext.of_step {s u : State} {e : Step} {peer : String}
    (hstep : s.step? r e = some u) (hconnections : u.connections = s.connections)
    (hstop : e ≠ .stop) (hevent : ∀ index, e.eventOf? index = none) (h : AcceptsNext r u peer) :
    AcceptsNext r s peer := by
  obtain ⟨more, t, hrun, ht, hmore, hown⟩ := h
  refine ⟨e :: more, t, ?_, hconnections ▸ ht, ?_, fun index => ?_⟩
  · rw [State.run?, hstep]
    exact hrun
  · exact fun hmem => (List.mem_cons.mp hmem).elim (fun h => hstop h.symm) hmore
  · rw [eventsOf, List.filterMap_cons, hevent index]
    exact hown index

theorem acceptsNext_of_holding {s : State} (ha : s.acceptor = .holding) (peer : String) :
    AcceptsNext r s peer := by
  obtain ⟨t, hstep, ht⟩ : ∃ t, s.step? r (.accept peer) = some t ∧
      t.connections = s.connections ++ [⟨peer, .start⟩] := ⟨_, if_pos ha, rfl⟩
  refine ⟨[.accept peer], t, ?_, ht, by simp, fun index => rfl⟩
  rw [State.run?, hstep]
  rfl

theorem acceptsNext_of_waiting {s : State} (ha : s.acceptor = .waiting) (hf : 0 < s.free)
    (peer : String) : AcceptsNext r s peer :=
  .of_step (e := .takeSlot) (if_pos ⟨ha, hf⟩) rfl nofun (fun _ => rfl)
    (acceptsNext_of_holding rfl peer)

theorem acceptsNext_of_pausing {s : State} (ha : s.acceptor = .pausing) (peer : String) :
    AcceptsNext r s peer :=
  .of_step (e := .resume) (if_pos ha) rfl nofun (fun _ => rfl)
    (acceptsNext_of_waiting rfl (Nat.succ_pos s.free) peer)

theorem Reachable.acceptsNext {n : Nat} {s : State} (h : Reachable r n s)
    (ha : s.acceptor ≠ .stopped) (hrunning : s.running < capacity n) (peer : String) :
    AcceptsNext r s peer := by
  have hslots : s.free + s.acceptor.held + s.running = capacity n := h.slots_eq
  cases hacceptor : s.acceptor with
  | waiting =>
      rw [hacceptor, Acceptor.held] at hslots
      exact acceptsNext_of_waiting hacceptor (by omega) peer
  | holding => exact acceptsNext_of_holding hacceptor peer
  | pausing => exact acceptsNext_of_pausing hacceptor peer
  | stopped => exact absurd hacceptor ha

/-! ### Clients among others -/

/-- Whenever the store answers in the run, it gives the answer `a`. -/
def Steady (a : Except StoreFailure (List Record)) (steps : List Step) : Prop :=
  ∀ index result, .event index (.answered result) ∈ steps → result = a

theorem mem_of_firstAnswer? {events later : List Event}
    {result : Except StoreFailure (List Record)}
    (h : firstAnswer? events = some (result, later)) : .answered result ∈ events := by
  induction events with
  | nil => cases h
  | cons e rest ih =>
      cases e with
      | answered result' =>
          cases h
          exact List.mem_cons_self ..
      | _ => exact List.mem_cons_of_mem _ (ih h)

theorem mem_of_opening? {events later : List Event} {o : Opening}
    (h : opening? events = some (o, later)) {e : Event} (he : e ∈ later) : e ∈ events := by
  induction events with
  | nil => cases h
  | cons e' rest ih =>
      rw [opening?] at h
      cases ho : e'.opening? with
      | none =>
          rw [ho] at h
          exact List.mem_cons_of_mem e' (ih h)
      | some o' =>
          rw [ho] at h
          cases h
          exact List.mem_cons_of_mem e' (List.mem_of_mem_filter he)

theorem mem_of_answer? {events : List Event} {result : Except StoreFailure (List Record)}
    (h : answer? events = some result) : .answered result ∈ events := by
  obtain ⟨⟨o, later⟩, hopening, hfirst⟩ := Option.bind_eq_some_iff.mp h
  obtain ⟨⟨result, rest⟩, hresult, rfl⟩ := Option.map_eq_some_iff.mp hfirst
  exact mem_of_opening? hopening (mem_of_firstAnswer? hresult)

theorem mem_eventsOf_iff {index : Nat} {steps : List Step} {e : Event} :
    e ∈ eventsOf index steps ↔ .event index e ∈ steps := by
  rw [eventsOf, List.mem_filterMap]
  constructor
  · rintro ⟨step, hmem, hstep⟩
    cases step with
    | event i e' =>
        rw [Step.eventOf?] at hstep
        split_ifs at hstep with hi
        cases hstep
        exact hi ▸ hmem
    | _ => cases hstep
  · exact fun hmem => ⟨_, hmem, if_pos rfl⟩

theorem Steady.answer_eq {a : Except StoreFailure (List Record)} {steps : List Step}
    (h : Steady a steps) (index : Nat) (result : Except StoreFailure (List Record))
    (hanswer : answer? (eventsOf index steps) = some result) : result = a :=
  h index result (mem_eventsOf_iff.mp (mem_of_answer? hanswer))

/-- What a run with the given steps is for each of its clients, and for the accepting. -/
structure Isolated (r : Resolver) (n : Nat) (steps : List Step) (s : State) : Prop where
  /-- A client is where its own events take it, be it one of many or the only one. -/
  own : ∀ index c, s.connections[index]? = some c → Own r (eventsOf index steps) c
  /-- What is written to it begins the frame that its own command and answer decide on. -/
  wire_begins : ∀ index c, s.connections[index]? = some c →
    c.exchange.wire <+: response r (flag? (eventsOf index steps)) (answer? (eventsOf index steps))
  /-- Nothing is written to it before an error of any other kind than one of writing. -/
  wire_eq_nil : ∀ index c e, s.connections[index]? = some c →
    c.exchange.outcome? = some (.error e) →
      (∀ cause, e ≠ .io cause) ∨ flag? (eventsOf index steps) = none → c.exchange.wire = []
  /-- A client that is served gets the whole of the frame. -/
  wire_eq : ∀ index c sent, s.connections[index]? = some c →
    c.exchange.outcome? = some (.ok sent) → c.exchange.wire =
      response r (flag? (eventsOf index steps)) (answer? (eventsOf index steps))
  /-- If the store gives the same answer to all, a client that completes its exchange ends like
  every other one that opens its exchange like it, in whatever company: the clients of the other
  run may be many, or only the one. -/
  eq_of_steady : ∀ a m steps' s', (State.start m).run? r steps' = some s' →
    Steady a steps → Steady a steps' → ∀ index c index' c',
      s.connections[index]? = some c → s'.connections[index']? = some c' →
      openedWith? (eventsOf index steps) = openedWith? (eventsOf index' steps') →
      c.exchange.Completed → c'.exchange.Completed → c.exchange = c'.exchange
  /-- Nothing that a client or the store does ends the accepting. -/
  stopped_iff : s.acceptor = .stopped ↔ .stop ∈ steps
  /-- Before the stop, the next client can be accepted while there is room for it. -/
  acceptsNext : .stop ∉ steps → s.running < capacity n → ∀ peer, AcceptsNext r s peer

/-- **Isolation.**  Whatever the clients of a server do, however the store answers and in whatever
order all this happens, each client gets what it would get alone, and the server goes on. -/
theorem run?_isolated {n : Nat} {s : State} {steps : List Step}
    (hrun : (State.start n).run? r steps = some s) : Isolated r n steps s := by
  have hown : ∀ index c, s.connections[index]? = some c → Own r (eventsOf index steps) c := by
    intro index c hc
    have h := own_of_run? hrun index
    rwa [hc] at h
  have hstage : ∀ index c, s.connections[index]? = some c →
      Exchange.Stage r (eventsOf index steps) c.exchange := by
    intro index c hc
    rw [(hown index c hc).exchange_eq]
    exact Exchange.run_stage r _
  have hstopped := acceptor_eq_stopped_iff_of_run? hrun
  refine ⟨hown, ?_, ?_, ?_, ?_, hstopped, ?_⟩
  · intro index c hc
    exact (hstage index c hc).begins_response
  · intro index c e hc ho he
    exact (hstage index c hc).wire_eq_nil ho he
  · intro index c sent hc ho
    exact (hstage index c hc).wire_eq_response ho
  · intro a m steps' s' hrun' hsteady hsteady' index c index' c' hc hc' hopened hend hend'
    have hown' : Own r (eventsOf index' steps') c' := by
      have h := own_of_run? hrun' index'
      rwa [hc'] at h
    rw [(hown index c hc).exchange_eq] at hend ⊢
    rw [hown'.exchange_eq] at hend' ⊢
    exact Exchange.run_eq_run hopened (hsteady.answer_eq index) (hsteady'.answer_eq index') hend
      hend'
  · intro hstop hrunning peer
    exact (Reachable.start.of_run? hrun).acceptsNext (mt hstopped.mp hstop) hrunning peer

/-- Three clients at once: whoever asks the store for the first does not survive, the second sends
no command that is known, and the third is served while the server has no slot left. -/
theorem run?_isolated_crash :
    let r : Resolver := ⟨1, .static 5⟩
    let steps : List Step := [.takeSlot, .accept "first", .takeSlot, .accept "second", .takeSlot,
      .event 0 (.arrived [1]), .accept "third", .event 2 (.arrived [1, 255]),
      .event 0 (.answered (.error (.crashed "7" "no such table"))), .event 2 (.answered (.ok [])),
      .event 2 (.wrote (.accepts 5)), .event 1 (.arrived [255]), .event 2 (.wrote (.accepts 7)),
      .takeSlot, .event 2 (.flushed .done), .event 2 (.shut none)]
    ∃ s, (State.start 3).run? r steps = some s ∧
      s.connections.map (·.exchange.wire) = [[], [], [0, 0, 0, 8, 0, 0, 0, 0, 0, 0, 0, 0]] ∧
      s.acceptor ≠ .stopped ∧ Isolated r 3 steps s := by
  intro r steps
  obtain ⟨s, hs, hwires, hacceptor⟩ : ∃ s, (State.start 3).run? r steps = some s ∧
      s.connections.map (·.exchange.wire) = [[], [], [0, 0, 0, 8, 0, 0, 0, 0, 0, 0, 0, 0]] ∧
      s.acceptor ≠ .stopped := ⟨_, rfl, by decide +kernel, by decide⟩
  exact ⟨s, hs, hwires, hacceptor, run?_isolated hs⟩

end Server
end TelemetryExport
