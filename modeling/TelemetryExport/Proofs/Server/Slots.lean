import Mathlib.Tactic.SplitIfs
import TelemetryExport.Server.Run

/-! # Slots

A server begins with as many free slots as its capacity, and a slot is always at one of three
places: free, with the acceptor, or with one worker whose exchange has not ended.  `Move` says
for each step when it is possible and what it does, `Move.slots_eq` that it moves slots only
between those places, and `Reachable.slots_eq` that none is lost or made on any way, the ones
through a failed accept or a stop included.

A stopped acceptor stays stopped (`run?_stopped`), so no client is accepted any more, and all
slots are free again only when no worker is left.  `Reachable.slotsKept` collects this. -/

namespace TelemetryExport
namespace Server

theorem capacity_pos (n : Nat) : 1 ≤ capacity n := Nat.le_max_left _ _

theorem capacity_le_maxCapacity (n : Nat) : capacity n ≤ maxCapacity :=
  Nat.max_le.mpr ⟨by decide, Nat.min_le_right _ _⟩

/-- Every capacity can be asked for in one request. -/
theorem drainCount_capacity (n : Nat) : drainCount (capacity n) = capacity n := by
  have hle := capacity_le_maxCapacity n
  have hmax : maxCapacity ≤ maxRequest := by decide
  rw [drainCount, if_pos (by omega)]

/-! ### Steps -/

variable {r : Resolver}

/-- What a step makes of a state, with what makes it possible. -/
inductive Move (r : Resolver) (s : State) : Step → State → Prop
  | takeSlot (ha : s.acceptor = .waiting) (hf : 0 < s.free) :
      Move r s .takeSlot { s with acceptor := .holding, free := s.free - 1 }
  | accept (peer : String) (ha : s.acceptor = .holding) :
      Move r s (.accept peer) { s.report (.accepted s.connections.length peer) with
        acceptor := .waiting
        connections := s.connections ++ [⟨peer, .start⟩] }
  | acceptFails (e : IoError) (ha : s.acceptor = .holding) :
      Move r s (.acceptFails e) { s.report (.acceptFailed e) with acceptor := .pausing }
  | resume (ha : s.acceptor = .pausing) :
      Move r s .resume { s with acceptor := .waiting, free := s.free + 1 }
  | goesOn {index : Nat} {e : Event} {c : Connection} (hc : s.connections[index]? = some c)
      (hr : c.isRunning = true) (ho : (c.exchange.step r e).outcome? = none) :
      Move r s (.event index e)
        { s with connections := s.connections.set index ⟨c.peer, c.exchange.step r e⟩ }
  | ends {index : Nat} {e : Event} {c : Connection} {outcome : Except ExchangeError Sent}
      (hc : s.connections[index]? = some c) (hr : c.isRunning = true)
      (ho : (c.exchange.step r e).outcome? = some outcome) :
      Move r s (.event index e)
        { s with
          connections := s.connections.set index ⟨c.peer, c.exchange.step r e⟩
          log := s.log ++ [.ended index c.peer outcome]
          free := s.free + 1 }
  | stop (ha : s.acceptor = .waiting ∨ s.acceptor = .holding) :
      Move r s .stop { s.report .stopped with
        acceptor := .stopped
        free := s.free + s.acceptor.held }
  | drained (ha : s.acceptor = .stopped) (hd : s.done = false)
      (hf : drainCount s.capacity ≤ s.free) : Move r s .drained { s with done := true }
  | giveUp (ha : s.acceptor = .stopped) (hd : s.done = false) :
      Move r s .giveUp { s.report .stillRunning with done := true }

theorem move_of_exchangeStep? {s t : State} {index : Nat} {e : Event}
    (h : s.exchangeStep? r index e = some t) : Move r s (.event index e) t := by
  unfold State.exchangeStep? at h
  cases hc : s.connections[index]? with
  | none =>
      rw [hc] at h
      cases h
  | some c =>
      cases hr : c.isRunning with
      | false =>
          rw [hc, Option.bind_eq_bind, Option.bind_some, hr] at h
          cases h
      | true =>
          have hguard : (guard (c.isRunning = true) : Option Unit) = some () := by
            rw [hr]
            rfl
          rw [hc, Option.bind_eq_bind, Option.bind_some, hguard, Option.bind_eq_bind,
            Option.bind_some] at h
          dsimp only at h
          cases ho : (c.exchange.step r e).outcome? with
          | none =>
              rw [ho] at h
              cases h
              exact .goesOn hc hr ho
          | some outcome =>
              rw [ho] at h
              cases h
              exact .ends hc hr ho

theorem move_of_step? {s t : State} {e : Step} (h : s.step? r e = some t) : Move r s e t := by
  cases e with
  | takeSlot =>
      simp only [State.step?] at h
      split_ifs at h with hg
      cases h
      exact .takeSlot hg.1 hg.2
  | accept peer =>
      simp only [State.step?] at h
      split_ifs at h with hg
      cases h
      exact .accept peer hg
  | acceptFails e =>
      simp only [State.step?] at h
      split_ifs at h with hg
      cases h
      exact .acceptFails e hg
  | resume =>
      simp only [State.step?] at h
      split_ifs at h with hg
      cases h
      exact .resume hg
  | event index e => exact move_of_exchangeStep? h
  | stop =>
      simp only [State.step?] at h
      split_ifs at h with hg
      cases h
      exact .stop hg
  | drained =>
      simp only [State.step?] at h
      split_ifs at h with hg
      cases h
      exact .drained hg.1 (by simpa using hg.2.1) hg.2.2
  | giveUp =>
      simp only [State.step?] at h
      split_ifs at h with hg
      cases h
      exact .giveUp hg.1 (by simpa using hg.2)

/-! ### Where the slots are -/

theorem running_append_start (cs : List Connection) (peer : String) :
    (cs ++ [Connection.mk peer .start]).countP Connection.isRunning =
      cs.countP Connection.isRunning + 1 := by
  rw [List.countP_append]
  rfl

theorem isRunning_of_outcome? {peer : String} {x : Exchange} {outcome : Except ExchangeError Sent}
    (ho : x.outcome? = some outcome) : (Connection.mk peer x).isRunning = false := by
  unfold Connection.isRunning
  rw [ho]
  rfl

/-- An event in a running exchange ends at most that one. -/
theorem running_set {cs : List Connection} {index : Nat} {c : Connection}
    (hc : cs[index]? = some c) (hr : c.isRunning = true) (c' : Connection) :
    (cs.set index c').countP Connection.isRunning + 1 =
      cs.countP Connection.isRunning + if c'.isRunning then 1 else 0 := by
  obtain ⟨hi, rfl⟩ := List.getElem?_eq_some_iff.mp hc
  have hpos : 0 < cs.countP Connection.isRunning :=
    List.countP_pos_iff.mpr ⟨cs[index], List.getElem_mem hi, hr⟩
  rw [List.countP_set hi, if_pos hr]
  omega

/-- The slots at the three places where a slot can be. -/
def State.slots (s : State) : Nat := s.free + s.acceptor.held + s.running

/-- **A step keeps the number of slots**, whichever it is. -/
theorem Move.slots_eq {s t : State} {e : Step} (h : Move r s e t) : t.slots = s.slots := by
  unfold State.slots State.running
  cases h with
  | takeSlot ha hf =>
      have hheld : s.acceptor.held = 0 := by rw [ha]; rfl
      have hheld' : Acceptor.holding.held = 1 := rfl
      dsimp only
      omega
  | accept peer ha =>
      have hheld : s.acceptor.held = 1 := by rw [ha]; rfl
      have hheld' : Acceptor.waiting.held = 0 := rfl
      dsimp only [State.report]
      rw [running_append_start]
      omega
  | acceptFails e ha =>
      have hheld : s.acceptor.held = 1 := by rw [ha]; rfl
      have hheld' : Acceptor.pausing.held = 1 := rfl
      dsimp only [State.report]
      omega
  | resume ha =>
      have hheld : s.acceptor.held = 1 := by rw [ha]; rfl
      have hheld' : Acceptor.waiting.held = 0 := rfl
      dsimp only
      omega
  | @goesOn index e c hc hr ho =>
      have hset := running_set hc hr ⟨c.peer, c.exchange.step r e⟩
      have hrun : (Connection.mk c.peer (c.exchange.step r e)).isRunning = true := by
        unfold Connection.isRunning
        rw [ho]
        rfl
      rw [if_pos hrun] at hset
      dsimp only
      omega
  | @ends index e c outcome hc hr ho =>
      have hset := running_set hc hr ⟨c.peer, c.exchange.step r e⟩
      rw [isRunning_of_outcome? ho] at hset
      simp only [Bool.false_eq_true, if_false] at hset
      dsimp only
      omega
  | stop ha =>
      have hheld' : Acceptor.stopped.held = 0 := rfl
      dsimp only [State.report]
      omega
  | drained ha hd hf => rfl
  | giveUp ha hd => rfl

theorem Move.capacity_eq {s t : State} {e : Step} (h : Move r s e t) :
    t.capacity = s.capacity := by
  cases h <;> rfl

theorem Reachable.capacity_eq {n : Nat} {s : State} (h : Reachable r n s) :
    s.capacity = capacity n := by
  induction h with
  | start => rfl
  | step hs h ih => rw [(move_of_step? h).capacity_eq, ih]

theorem Reachable.slots_eq {n : Nat} {s : State} (h : Reachable r n s) :
    s.slots = capacity n := by
  induction h with
  | start => rfl
  | step hs h ih => rw [(move_of_step? h).slots_eq, ih]

theorem Reachable.of_run? {n : Nat} {s t : State} {steps : List Step} (h : Reachable r n s)
    (hrun : s.run? r steps = some t) : Reachable r n t := by
  induction steps generalizing s with
  | nil =>
      cases hrun
      exact h
  | cons e rest ih =>
      rw [State.run?, Option.bind_eq_some_iff] at hrun
      obtain ⟨u, hu, hrun⟩ := hrun
      exact ih (h.step hu) hrun

/-! ### After a stop -/

theorem map_peer_set {cs : List Connection} {index : Nat} {c : Connection}
    (hc : cs[index]? = some c) (x : Exchange) :
    (cs.set index ⟨c.peer, x⟩).map (·.peer) = cs.map (·.peer) := by
  obtain ⟨hi, rfl⟩ := List.getElem?_eq_some_iff.mp hc
  have hi' : index < (cs.map Connection.peer).length := by rwa [List.length_map]
  have hpeer : (cs.map Connection.peer)[index] = cs[index].peer := List.getElem_map _
  rw [List.map_set]
  dsimp only
  rw [← hpeer, List.set_getElem_self]

/-- A stopped acceptor stays stopped, and a step of the server adds no client to the others. -/
theorem Move.stopped {s t : State} {e : Step} (h : Move r s e t) (ha : s.acceptor = .stopped) :
    t.acceptor = .stopped ∧ t.connections.map (·.peer) = s.connections.map (·.peer) ∧
      ∀ peer, e ≠ .accept peer := by
  cases h with
  | goesOn hc => exact ⟨ha, map_peer_set hc _, nofun⟩
  | ends hc => exact ⟨ha, map_peer_set hc _, nofun⟩
  | drained => exact ⟨ha, rfl, nofun⟩
  | giveUp => exact ⟨ha, rfl, nofun⟩
  | stop ha' =>
      rw [ha] at ha'
      rcases ha' with ha' | ha' <;> cases ha'
  | accept peer ha' =>
      rw [ha] at ha'
      cases ha'
  | acceptFails e ha' =>
      rw [ha] at ha'
      cases ha'
  | takeSlot ha' =>
      rw [ha] at ha'
      cases ha'
  | resume ha' =>
      rw [ha] at ha'
      cases ha'

theorem run?_stopped {s t : State} {steps : List Step} (ha : s.acceptor = .stopped)
    (hrun : s.run? r steps = some t) :
    t.connections.map (·.peer) = s.connections.map (·.peer) ∧ ∀ peer, .accept peer ∉ steps := by
  induction steps generalizing s with
  | nil =>
      cases hrun
      exact ⟨rfl, fun _ => List.not_mem_nil⟩
  | cons e rest ih =>
      rw [State.run?, Option.bind_eq_some_iff] at hrun
      obtain ⟨u, hu, hrun⟩ := hrun
      obtain ⟨hstopped, hpeers, he⟩ := (move_of_step? hu).stopped ha
      obtain ⟨hpeers', hrest⟩ := ih hstopped hrun
      refine ⟨hpeers'.trans hpeers, fun peer hmem => ?_⟩
      rcases List.mem_cons.mp hmem with h | h
      · exact he peer h.symm
      · exact hrest peer h

/-! ### The account -/

/-- What is true of a server that was asked for `n` slots, in the state `s`. -/
structure SlotsKept (r : Resolver) (n : Nat) (s : State) : Prop where
  capacity_bounds : 1 ≤ capacity n ∧ capacity n ≤ maxCapacity
  capacity_eq : 1 ≤ n → n ≤ maxCapacity → capacity n = n
  /-- Each slot is free, with the acceptor or with one running worker. -/
  account : s.free + s.acceptor.held + s.running = capacity n
  /-- At most so many exchanges are in flight. -/
  running_le : s.running ≤ capacity n
  /-- Nobody is accepted any more once the stop was taken. -/
  nobody_after_stop : ∀ t, s.step? r .stop = some t → ∀ steps u, t.run? r steps = some u →
    u.connections.map (·.peer) = s.connections.map (·.peer) ∧ ∀ peer, .accept peer ∉ steps
  /-- The server asks for all of its slots, no more and no fewer. -/
  asks_for_all : drainCount s.capacity = capacity n
  /-- It gets them, unless it has given up, as soon as no worker is running, and not before. -/
  drained_iff : (s.step? r .drained).isSome ↔
    s.acceptor = .stopped ∧ s.done = false ∧ s.running = 0

/-- **Conservation of slots.**  Whatever capacity a server was asked for, and in whatever order
clients, workers and the stop are served, no slot is lost or made: every state that can be
reached accounts for all of them. -/
theorem Reachable.slotsKept {n : Nat} {s : State} (h : Reachable r n s) : SlotsKept r n s := by
  have haccount : s.free + s.acceptor.held + s.running = capacity n := h.slots_eq
  have hall : drainCount s.capacity = capacity n := by
    rw [h.capacity_eq, drainCount_capacity]
  refine ⟨⟨capacity_pos n, capacity_le_maxCapacity n⟩, capacity_of_le, haccount, by omega, ?_,
    hall, ?_⟩
  · intro t ht steps u hu
    have hstop := move_of_step? ht
    cases hstop
    have hlater := run?_stopped rfl hu
    exact hlater
  · rw [State.step?, hall]
    constructor
    · intro hsome
      split_ifs at hsome with hg
      · obtain ⟨ha, hd, hf⟩ := hg
        exact ⟨ha, by simpa using hd, by omega⟩
      · cases hsome
    · rintro ⟨ha, hd, hr⟩
      have hheld : s.acceptor.held = 0 := by rw [ha]; rfl
      rw [if_pos ⟨ha, by rw [hd]; rfl, by omega⟩]
      rfl

/-- A server of one slot fails to accept, recovers, and is stopped while its one worker waits for
the command: the slot is with the worker, and the server cannot be done yet. -/
theorem slotsKept_stopped_early :
    let r : Resolver := ⟨1, .static 100⟩
    let steps : List Step := [.takeSlot, .acceptFails ⟨.other, "Too many open files"⟩, .resume,
      .takeSlot, .accept "client", .stop]
    ∃ s, (State.start 0).run? r steps = some s ∧ Reachable r 0 s ∧ s.free = 0 ∧ s.running = 1 ∧
      s.step? r .drained = none ∧ SlotsKept r 0 s := by
  intro r steps
  obtain ⟨s, hs⟩ : ∃ s, (State.start 0).run? r steps = some s := ⟨_, rfl⟩
  have h : Reachable r 0 s := Reachable.start.of_run? hs
  cases hs
  exact ⟨_, rfl, h, rfl, rfl, rfl, h.slotsKept⟩

end Server
end TelemetryExport
