import TelemetryExport.Server.Exchange

/-! # A worker

A worker looks at the phase of its exchange, sees to what that phase waits for and hands what
comes of it to the exchange as the next event, until the exchange has ended.  `Phase.demand?`
says what is waited for.  The program meets the demands with a socket and the store's file;
`World.meet` does so with a client, a store and a sink that are given as values. -/

namespace TelemetryExport
namespace Server

/-- What an exchange waits for. -/
inductive Demand where
  | command
  | answer (q : Query)
  /-- The sink is to accept the bytes, or some of them. -/
  | room (bytes : Bytes)
  | flush
  | shutdown
deriving DecidableEq, Repr

def Phase.demand? : Phase → Option Demand
  | awaiting => some .command
  | querying q => some (.answer q)
  | sending _ (.writing _ rest) => some (.room rest)
  | sending .. => some .flush
  | closing .. => some .shutdown
  | ended .. => none

/-- Everything a worker has to do with. -/
structure World (σ : Type) where
  /-- What the wait for the command ends with. -/
  opening : Event
  answer : Query → Except StoreFailure (List Record)
  sink : Frame.Sink σ
  /-- Why the sending side cannot be closed, if it cannot. -/
  refusal : Option IoError

/-- A client that sends the request, a file that the query finds as it is, what the clock shows by
then, and a sink. -/
def World.ofFile {σ : Type} (request : Bytes) (f : Store.File) (a : Store.Access)
    (p : Store.RetryPolicy) (now : Store.Clock) (task : String) (sink : Frame.Sink σ) :
    World σ where
  opening := .arrived request
  answer q := storeAnswer task (f.query a p q now)
  sink := sink
  refusal := none

def World.meet {σ : Type} (w : World σ) (state : σ) : Demand → Event × σ
  | .command => (w.opening, state)
  | .answer q => (.answered (w.answer q), state)
  | .room bytes =>
    let (answer, state) := w.sink.write state bytes.length
    (.wrote answer, state)
  | .flush =>
    let (answer, state) := w.sink.flush state
    (.flushed answer, state)
  | .shutdown => (.shut w.refusal, state)

/-- Carries an exchange on until it ends or `fuel` demands were met. -/
def work {σ : Type} (r : Resolver) (w : World σ) : (fuel : Nat) → σ → Exchange → σ × Exchange
  | 0, state, x => (state, x)
  | fuel + 1, state, x =>
    match x.phase.demand? with
    | none => (state, x)
    | some demand =>
      let (e, state) := w.meet state demand
      work r w fuel state (x.step r e)

end Server
end TelemetryExport
