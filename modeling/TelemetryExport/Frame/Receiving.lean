import TelemetryExport.Frame.Sending

/-! # Receiving a frame

A `Source` is a stream of bytes as it arrives: pieces of any size, moments in which nothing is
ready, and then the end of the stream or an error on every further read.  `gather` takes the
next bytes out of the pieces; a read gives at most the rest of one piece, so how the stream is
cut never shows in what is gathered.

`receive` reads one frame.  A stream that ends inside the length, even with an error of the
kind `unexpectedEof`, has no further frame; a length above the limit is refused before any
byte of the payload is read. -/

namespace TelemetryExport
namespace Frame

inductive Arrival where
  | notReady
  | piece (bytes : Bytes)
deriving DecidableEq, Repr

structure Source where
  arrivals : List Arrival
  /-- What a read gives after the last arrival; `none` is the end of the stream. -/
  failure : Option IoError
deriving DecidableEq, Repr

/-- The next `count` bytes, fewer only if the arrivals end, and what is left to arrive. -/
def gather : (count : Nat) → List Arrival → Bytes × List Arrival
  | 0, arrivals => ([], arrivals)
  | _ + 1, [] => ([], [])
  | count + 1, .notReady :: arrivals => gather (count + 1) arrivals
  | count + 1, .piece bytes :: arrivals =>
    if bytes.length ≤ count + 1 then
      let (more, arrivals) := gather (count + 1 - bytes.length) arrivals
      (bytes ++ more, arrivals)
    else (bytes.take (count + 1), .piece (bytes.drop (count + 1)) :: arrivals)

namespace Source

/-- The bytes that have not been read. -/
def unread (s : Source) : Bytes :=
  s.arrivals.flatMap fun
    | .notReady => []
    | .piece bytes => bytes

def ofBytes (bytes : Bytes) : Source := ⟨[.piece bytes], none⟩

/-- The next `count` bytes, or why there are not as many. -/
def take (s : Source) (count : Nat) : Except IoError Bytes × Source :=
  let (bytes, arrivals) := gather count s.arrivals
  (if bytes.length < count then .error (s.failure.getD .earlyEof) else .ok bytes,
    { s with arrivals })

end Source

def lengthTooLarge (length limit : Nat) : IoError :=
  ⟨.invalidData,
    "frame of " ++ toString length ++ " bytes exceeds limit of " ++ toString limit⟩

/-- One frame's payload, or `none` if the stream has no further frame. -/
def receive (limit : Nat) (s : Source) : Except IoError (Option Bytes) × Source :=
  match s.take lengthWidth with
  | (.error e, s) => (if e.kind = .unexpectedEof then .ok none else .error e, s)
  | (.ok head, s) =>
    let length := ofBigEndian head
    if limit < length then (.error (lengthTooLarge length limit), s)
    else
      let (payload, s) := s.take length
      (payload.map some, s)

/-- One call for each limit. -/
def receiveAll : (limits : List Nat) → Source → List (Except IoError (Option Bytes)) × Source
  | [], s => ([], s)
  | limit :: limits, s =>
    let (first, s) := receive limit s
    let (later, s) := receiveAll limits s
    (first :: later, s)

end Frame
end TelemetryExport
