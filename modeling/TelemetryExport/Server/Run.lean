import TelemetryExport.Server.Capacity
import TelemetryExport.Server.Exchange

/-! # A server's run

The acceptor takes a slot, waits for a client, hands both to a new worker and begins again; a
worker gives its slot back when its exchange has ended.  When the server is told to stop, the
acceptor stops wherever it waits, and once all slots are free the server is done.

`Server.step?` says what each possible step makes of a state, and when it is possible at all;
a run is any sequence of possible steps, so the order in which clients, workers and the
shutdown are served is left open.  The log is a list of entries, each made by one of the steps;
`Entry.line` is the line that is written for it. -/

namespace TelemetryExport
namespace Server

inductive Acceptor where
  /-- Waits for a free slot. -/
  | waiting
  /-- Holds a slot and waits for a client. -/
  | holding
  /-- Holds a slot and pauses after a failure. -/
  | pausing
  | stopped
deriving DecidableEq, Repr

/-- The number of slots that the acceptor holds. -/
def Acceptor.held : Acceptor → Nat
  | waiting => 0
  | holding => 1
  | pausing => 1
  | stopped => 0

/-- A client that was accepted, with its exchange. -/
structure Connection where
  peer : String
  exchange : Exchange

def Connection.isRunning (c : Connection) : Bool := c.exchange.outcome?.isNone

/-! ### The log -/

/-- What a server reports.  Clients are numbered in the order in which they were accepted. -/
inductive Entry where
  | accepted (index : Nat) (peer : String)
  | acceptFailed (e : IoError)
  /-- How the exchange with a client ended. -/
  | ended (index : Nat) (peer : String) (outcome : Except ExchangeError Sent)
  | stopped
  | stillRunning

/-- How long a server waits for its workers, in seconds. -/
def drainSeconds : Nat := 10

def Entry.line : Entry → LogLine
  | accepted _ peer => ⟨.debug, "Accepted connection from " ++ peer⟩
  | acceptFailed e => ⟨.error, "Failed to accept connection: " ++ e.message⟩
  | ended _ peer (.ok sent) =>
    ⟨.info, "Sent " ++ toString sent.records ++ " records (" ++ toString sent.bytes ++
      " bytes) to " ++ peer⟩
  | ended _ peer (.error e) => ⟨e.level, peer ++ ": " ++ e.message⟩
  | stopped => ⟨.info, "Stopped accepting connections, waiting for workers"⟩
  | stillRunning => ⟨.warn, "Workers still running after " ++ toString drainSeconds ++ "s"⟩

/-! ### States and steps -/

structure State where
  capacity : Nat
  free : Nat
  acceptor : Acceptor
  /-- All clients accepted so far, in that order. -/
  connections : List Connection
  /-- The wait for the workers is over. -/
  done : Bool
  log : List Entry

inductive Step where
  | takeSlot
  | accept (peer : String)
  | acceptFails (e : IoError)
  | resume
  /-- An event in the exchange of one client. -/
  | event (index : Nat) (e : Event)
  | stop
  /-- As many slots are free as the server asks for. -/
  | drained
  /-- The wait for the workers has lasted too long. -/
  | giveUp

namespace State

def start (maxConnections : Nat) : State where
  capacity := Server.capacity maxConnections
  free := Server.capacity maxConnections
  acceptor := .waiting
  connections := []
  done := false
  log := []

/-- The number of exchanges in flight. -/
def running (s : State) : Nat := s.connections.countP Connection.isRunning

def report (s : State) (e : Entry) : State := { s with log := s.log ++ [e] }

/-- An event in an exchange that has not ended; if it ends with it, its slot is free again. -/
def exchangeStep? (r : Resolver) (s : State) (index : Nat) (e : Event) : Option State := do
  let c ← s.connections[index]?
  guard c.isRunning
  let exchange := c.exchange.step r e
  let s := { s with connections := s.connections.set index ⟨c.peer, exchange⟩ }
  match exchange.outcome? with
  | none => return s
  | some outcome => return { s.report (.ended index c.peer outcome) with free := s.free + 1 }

def step? (r : Resolver) (s : State) : Step → Option State
  | .takeSlot =>
    if s.acceptor = .waiting ∧ 0 < s.free then
      some { s with acceptor := .holding, free := s.free - 1 }
    else none
  | .accept peer =>
    if s.acceptor = .holding then
      some { s.report (.accepted s.connections.length peer) with
        acceptor := .waiting
        connections := s.connections ++ [⟨peer, .start⟩] }
    else none
  | .acceptFails e =>
    if s.acceptor = .holding then some { s.report (.acceptFailed e) with acceptor := .pausing }
    else none
  | .resume =>
    if s.acceptor = .pausing then some { s with acceptor := .waiting, free := s.free + 1 }
    else none
  | .event index e => s.exchangeStep? r index e
  | .stop =>
    if s.acceptor = .waiting ∨ s.acceptor = .holding then
      some { s.report .stopped with
        acceptor := .stopped
        free := s.free + s.acceptor.held }
    else none
  | .drained =>
    if s.acceptor = .stopped ∧ !s.done ∧ drainCount s.capacity ≤ s.free then
      some { s with done := true }
    else none
  | .giveUp =>
    if s.acceptor = .stopped ∧ !s.done then some { s.report .stillRunning with done := true }
    else none

/-- The state after a list of steps, if each of them is possible in its turn. -/
def run? (r : Resolver) (s : State) : List Step → Option State
  | [] => some s
  | step :: steps => (s.step? r step).bind (run? r · steps)

end State

/-- The states that some sequence of steps leads to. -/
inductive Reachable (r : Resolver) (maxConnections : Nat) : State → Prop where
  | start : Reachable r maxConnections (.start maxConnections)
  | step {s t : State} {e : Step} (hs : Reachable r maxConnections s)
      (h : s.step? r e = some t) : Reachable r maxConnections t

end Server
end TelemetryExport
