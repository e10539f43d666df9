import TelemetryExport.Frame.Sending

/-! # A sink with planned faults

Accepts at most `chunk` bytes at a time and never passes a planned total: at `failAt` accepted
bytes every further write fails, at `zeroAt` it accepts nothing.  With `hesitant`, every other
write first answers that it is not ready. -/

namespace TelemetryExport
namespace Frame

structure FaultPlan where
  chunk : Option Nat
  failAt : Option Nat
  zeroAt : Option Nat
  flushFails : Bool
  hesitant : Bool
  failure : IoError
deriving Repr

/-- What a planned sink has seen: the bytes accepted in all, the accepted sizes (latest first),
the number of flushes, and whether the next hesitation is due. -/
structure FaultRecord where
  total : Nat
  sizes : List Nat
  flushes : Nat
  hesitates : Bool
deriving Repr

namespace FaultPlan

variable (plan : FaultPlan)

def fresh : FaultRecord := ⟨0, [], 0, plan.hesitant⟩

/-- How many of the offered bytes are taken when nothing fails. -/
def room (total offered : Nat) : Nat :=
  let upTo (limit : Option Nat) (n : Nat) : Nat := (limit.map (min n)).getD n
  upTo (plan.zeroAt.map (· - total))
    (upTo (plan.failAt.map (· - total)) (upTo plan.chunk offered))

def write (state : FaultRecord) (offered : Nat) : WriteAnswer × FaultRecord :=
  if state.hesitates then (.notReady, { state with hesitates := false })
  else
    let state := { state with hesitates := plan.hesitant }
    if plan.failAt = some state.total then (.fails plan.failure, state)
    else
      let n := plan.room state.total offered
      (.accepts n, { state with total := state.total + n, sizes := n :: state.sizes })

def flush (state : FaultRecord) : FlushAnswer × FaultRecord :=
  (if plan.flushFails then .fails plan.failure else .done,
    { state with flushes := state.flushes + 1 })

def sink : Sink FaultRecord := ⟨plan.write, plan.flush⟩

/-- The answers that a planned sink takes at most for one payload. -/
def fuel (payload : Bytes) : Nat := 2 * (lengthWidth + payload.length) + 2

def sendAll (state : FaultRecord) (payloads : List Bytes) : FaultRecord × List Sending :=
  plan.sink.sendAll fuel state payloads

end FaultPlan
end Frame
end TelemetryExport
