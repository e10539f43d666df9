import TelemetryExport.Command
import TelemetryExport.Frame.Sending
import TelemetryExport.Log
import TelemetryExport.Payload
import TelemetryExport.Store.Retry
import TelemetryExport.Text.Quoted

/-! # One exchange

A worker carries on one exchange with one client.  It waits for the first byte that arrives,
resolves it to a query, has the store answer it, encodes the answer and sends it in one frame;
then it closes its side of the connection.

`Exchange.step` takes one event at a time: something of the client, of the store or of the sink
that takes the frame.  An event that the exchange is not waiting for changes nothing, so any
list of events is a run, and whatever other workers do in between leaves no trace.  The record
of a run says how many bytes of the client were taken, which configurations were pushed, which
queries were asked and, in `Phase.wire`, which bytes the sink has accepted.

Before `Phase.sending` nothing is written, and that phase is entered only with a whole frame. -/

namespace TelemetryExport
namespace Server

/-- The store gave no answer, or whoever asked it did not survive. -/
inductive StoreFailure where
  | refused (text : String)
  | crashed (task text : String)
deriving DecidableEq, Repr

def StoreFailure.message : StoreFailure → String
  | refused text => "Failed to query records: " ++ text
  | crashed task text =>
    "Storage worker failed: task " ++ task ++ " panicked with message " ++ Text.quoted text

/-- What the one who asked the store, named `task`, brings back to the worker. -/
def storeAnswer (task : String) (t : Store.Tried (List Record)) :
    Except StoreFailure (List Record) :=
  t.outcome.mapError fun e =>
    if e = .timeoutTooLarge then .crashed task e.message else .refused e.message

/-- What ends an exchange early. -/
inductive ExchangeError where
  | protocol (cause : ProtocolError)
  | store (cause : StoreFailure)
  | payload (cause : Payload.Error)
  | io (cause : IoError)
deriving DecidableEq, Repr

namespace ExchangeError

def message : ExchangeError → String
  | protocol cause => cause.message
  | store cause => cause.message
  | payload cause => cause.message
  | io cause => "Connection I/O failed: " ++ cause.message

/-- What a client does wrong is no error of the server. -/
def level : ExchangeError → Level
  | protocol _ => .warn
  | _ => .error

end ExchangeError

/-- What a successful exchange put on the wire; the frame's length is not counted. -/
structure Sent where
  records : Nat
  bytes : Nat
deriving DecidableEq, Repr

inductive Phase where
  /-- Waits for the command. -/
  | awaiting
  /-- Waits for the store. -/
  | querying (q : Query)
  | sending (sent : Sent) (s : Frame.Sending)
  /-- The frame is out; the sending side is being closed. -/
  | closing (sent : Sent) (wire : Bytes)
  | ended (wire : Bytes) (outcome : Except ExchangeError Sent)

namespace Phase

/-- The bytes that the sink has accepted. -/
def wire : Phase → Bytes
  | awaiting => []
  | querying _ => []
  | sending _ s => s.accepted
  | closing _ wire => wire
  | ended wire _ => wire

def outcome? : Phase → Option (Except ExchangeError Sent)
  | ended _ outcome => some outcome
  | _ => none

def failed (e : ExchangeError) : Phase := ended [] (.error e)

/-- Where an exchange stands when its frame is sent as far as `s`. -/
def ofSending (sent : Sent) : Frame.Sending → Phase
  | .sent wire => closing sent wire
  | .failed wire e => ended wire (.error (.io e))
  | s => sending sent s

/-- Begins to send the records that answer the query. -/
def ofAnswer : Except StoreFailure (List Record) → Phase
  | .error e => failed (.store e)
  | .ok records =>
    match Payload.encode records with
    | .error e => failed (.payload e)
    | .ok payload => ofSending ⟨records.length, payload.length⟩ (.start payload)

end Phase

structure Exchange where
  phase : Phase
  /-- How many of the client's bytes were taken. -/
  consumed : Nat
  pushed : List Bytes
  asked : List Query

inductive Event where
  /-- Bytes of the client arrive. -/
  | arrived (bytes : Bytes)
  /-- The client has closed its sending side. -/
  | closed
  | timedOut
  | readFailed (e : IoError)
  | answered (result : Except StoreFailure (List Record))
  | wrote (answer : Frame.WriteAnswer)
  | flushed (answer : Frame.FlushAnswer)
  /-- The worker's sending side is closed, or could not be. -/
  | shut (failure : Option IoError)

namespace Exchange

def start : Exchange := ⟨.awaiting, 0, [], []⟩

/-- The first byte decides on everything that follows. -/
def command (r : Resolver) (flag : UInt8) : Exchange :=
  let resolution := r.resolve flag
  match resolution.outcome with
  | .ok q => ⟨.querying q, 1, resolution.pushed, [q]⟩
  | .error e => ⟨.failed (.protocol e), 1, resolution.pushed, []⟩

def step (r : Resolver) (x : Exchange) (e : Event) : Exchange :=
  match x.phase, e with
  | .awaiting, .arrived (flag :: _) => command r flag
  | .awaiting, .closed => { x with phase := .failed (.protocol .disconnected) }
  | .awaiting, .timedOut => { x with phase := .failed (.protocol .timeout) }
  | .awaiting, .readFailed e => { x with phase := .failed (.io e) }
  | .querying _, .answered result => { x with phase := .ofAnswer result }
  | .sending sent s, .wrote answer => { x with phase := .ofSending sent (s.wrote answer) }
  | .sending sent s, .flushed answer => { x with phase := .ofSending sent (s.flushed answer) }
  | .closing sent wire, .shut none => { x with phase := .ended wire (.ok sent) }
  | .closing _ wire, .shut (some e) => { x with phase := .ended wire (.error (.io e)) }
  | _, _ => x

def run (r : Resolver) (x : Exchange) (events : List Event) : Exchange :=
  events.foldl (step r) x

def wire (x : Exchange) : Bytes := x.phase.wire

def outcome? (x : Exchange) : Option (Except ExchangeError Sent) := x.phase.outcome?

@[simp] theorem run_nil (r : Resolver) (x : Exchange) : run r x [] = x := rfl

@[simp] theorem run_cons (r : Resolver) (x : Exchange) (e : Event) (events : List Event) :
    run r x (e :: events) = run r (step r x e) events := rfl

/-- An exchange that has ended stays as it is. -/
theorem step_of_outcome? {r : Resolver} {x : Exchange} {o : Except ExchangeError Sent}
    (h : x.outcome? = some o) (e : Event) : step r x e = x := by
  obtain ⟨phase, consumed, pushed, asked⟩ := x
  cases phase <;> simp_all [outcome?, Phase.outcome?, step]

end Exchange
end Server
end TelemetryExport
