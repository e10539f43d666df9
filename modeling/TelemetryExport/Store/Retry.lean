import TelemetryExport.Log
import TelemetryExport.Store.Answer
import TelemetryExport.Store.File

/-! # Asking again

A query that meets a lock is asked again after a constant delay, a limited number of times.
`attempts` numbers the outcomes that one attempt after the other would have; `RetryPolicy.run`
makes them in turn, stops at the first that is not transient, or when no repetition is left,
and answers with that one.  Each repetition is announced by the error that caused it and the
delay. -/

namespace TelemetryExport
namespace Store

structure RetryPolicy where
  times : Nat
  delayMs : Nat
deriving DecidableEq, Repr

/-- A delay in its largest unit: whole or decimal seconds, milliseconds, or nothing at all. -/
def delayText (ms : Nat) : String :=
  if ms = 0 then "0ns"
  else if ms < 1000 then toString ms ++ "ms"
  else (Decimal.mk ms (-3)).positional ++ "s"

def RetryPolicy.announce (p : RetryPolicy) (e : Error) : List LogLine :=
  [⟨.warn, e.message⟩, ⟨.info, "Retrying query in " ++ delayText p.delayMs⟩]

/-- The delay before the repetition number `i`, if there is one. -/
def RetryPolicy.delay? (p : RetryPolicy) (i : Nat) : Option Nat :=
  if i < p.times then some p.delayMs else none

/-- What came of asking: how often, how it ended, and what was announced on the way. -/
structure Tried (α : Type) where
  attempts : Nat
  outcome : Except Error α
  log : List LogLine

/-- The attempts from number `k` on, with `left` repetitions to spare. -/
def RetryPolicy.runFrom {α : Type} (p : RetryPolicy) (attempts : Nat → Except Error α) :
    (left k : Nat) → Tried α
  | 0, k => ⟨1, attempts k, []⟩
  | left + 1, k =>
    match attempts k with
    | .ok a => ⟨1, .ok a, []⟩
    | .error e =>
      if e.isTransient then
        let later := p.runFrom attempts left (k + 1)
        ⟨later.attempts + 1, later.outcome, p.announce e ++ later.log⟩
      else ⟨1, .error e, []⟩

def RetryPolicy.run {α : Type} (p : RetryPolicy) (attempts : Nat → Except Error α) : Tried α :=
  p.runFrom attempts p.times 0

/-- The table, read through a connection of its own, which never creates the file. -/
def File.read (a : Access) (f : File) : Except Error Table :=
  if f.content = .unreachable ∨ f.content = .missing then .error (.cannotOpen a.path)
  else if maxBusyTimeoutMs < a.busyTimeoutMs then .error .timeoutTooLarge
  else do
    match ← f.look with
    | some t => return t
    | none => throw .noSuchTable

/-- One attempt at a query, with the clock as it is read if it comes to that. -/
def File.attempt (a : Access) (q : Query) (now : Clock) (f : File) :
    Except Error (List Record) := do
  (← f.read a).answer now q

/-- A query on a file that stays as it is.  An attempt that is repeated met a lock and did not come
to read the clock, so only one of them does. -/
def File.query (a : Access) (p : RetryPolicy) (q : Query) (now : Clock) (f : File) :
    Tried (List Record) :=
  p.run fun _ => f.attempt a q now

end Store
end TelemetryExport
