import TelemetryExport.Bytes
import TelemetryExport.IoError

/-! # Sending a frame

A frame is the payload's length, four bytes highest first, followed by the payload.  It is
offered to a sink until the sink has accepted all of it, and then the sink is flushed once.

`Sending` is the state of one such call and `Sending.wrote`, `Sending.flushed` are its steps:
each takes one answer of the sink.  A sink may accept any part of what it is offered, accept
nothing, fail, or answer that it is not ready, which changes nothing.  The bytes accepted so
far are `Sending.accepted`, at every moment the beginning of the frame. -/

namespace TelemetryExport
namespace Frame

def lengthWidth : Nat := 4

/-- The number of payload lengths that a frame can announce. -/
def lengthLimit : Nat := 4294967296

def ofPayload (payload : Bytes) : Bytes := bigEndian lengthWidth payload.length ++ payload

def payloadTooLong (length : Nat) : IoError :=
  ⟨.invalidInput, "payload of " ++ toString length ++ " bytes doesn't fit a frame"⟩

/-- A sink's answer to an offer of bytes: it accepts as many of them as `limit` allows. -/
inductive WriteAnswer where
  | notReady
  | accepts (limit : Nat)
  | fails (error : IoError)
deriving DecidableEq, Repr

inductive FlushAnswer where
  | notReady
  | done
  | fails (error : IoError)
deriving DecidableEq, Repr

/-- The state of one call that sends a frame. -/
inductive Sending where
  | writing (accepted rest : Bytes)
  | flushing (accepted : Bytes)
  | sent (accepted : Bytes)
  | failed (accepted : Bytes) (error : IoError)
deriving DecidableEq, Repr

namespace Sending

def start (payload : Bytes) : Sending :=
  if payload.length < lengthLimit then .writing [] (ofPayload payload)
  else .failed [] (payloadTooLong payload.length)

/-- The bytes the sink has accepted during the call. -/
def accepted : Sending → Bytes
  | writing accepted _ => accepted
  | flushing accepted => accepted
  | sent accepted => accepted
  | failed accepted _ => accepted

/-- The sink's answer to the offer of everything not yet accepted. -/
def wrote : Sending → WriteAnswer → Sending
  | writing accepted rest, .accepts limit =>
    match rest.take limit, rest.drop limit with
    | [], _ => .failed accepted .writeZero
    | part, [] => .flushing (accepted ++ part)
    | part, rest => .writing (accepted ++ part) rest
  | writing accepted _, .fails error => .failed accepted error
  | s, _ => s

def flushed : Sending → FlushAnswer → Sending
  | flushing accepted, .done => .sent accepted
  | flushing accepted, .fails error => .failed accepted error
  | s, _ => s

end Sending

/-! ### A sink with a behaviour of its own -/

/-- A sink that decides its answer from its state and from how many bytes it is offered. -/
structure Sink (σ : Type) where
  write : σ → (offered : Nat) → WriteAnswer × σ
  flush : σ → FlushAnswer × σ

/-- Carries a call on until it ends or `fuel` answers were taken. -/
def Sink.drive {σ : Type} (sink : Sink σ) : (fuel : Nat) → σ → Sending → σ × Sending
  | 0, state, s => (state, s)
  | fuel + 1, state, s =>
    match s with
    | .writing _ rest =>
      let (answer, state) := sink.write state rest.length
      sink.drive fuel state (s.wrote answer)
    | .flushing _ =>
      let (answer, state) := sink.flush state
      sink.drive fuel state (s.flushed answer)
    | _ => (state, s)

/-- Sends the payloads one after the other, also after a failure; `fuel` bounds the answers that
are taken for each. -/
def Sink.sendAll {σ : Type} (sink : Sink σ) (fuel : Bytes → Nat) (state : σ) :
    List Bytes → σ × List Sending
  | [] => (state, [])
  | payload :: rest =>
    let (state, s) := sink.drive (fuel payload) state (.start payload)
    let (state, later) := sink.sendAll fuel state rest
    (state, s :: later)

end Frame
end TelemetryExport
