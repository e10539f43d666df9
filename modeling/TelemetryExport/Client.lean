import TelemetryExport.Decimal.Places
import TelemetryExport.Frame.Receiving
import TelemetryExport.Log
import TelemetryExport.Payload

/-! # The client

A client sends one command byte and takes one frame.  What follows the frame is read to the end
and only counted.  Readings are printed when the whole frame was understood, one line each, or
not at all.

A `Report` keeps the printed lines apart from those of the log, which a terminal may show on the
same stream. -/

namespace TelemetryExport
namespace Client

/-- The longest payload a client takes, 16 MiB. -/
def payloadLimit : Nat := 16 * 1024 * 1024

inductive Error where
  | connect (addr : String) (cause : IoError)
  | send (cause : IoError)
  | receive (cause : IoError)
  | noResponse
  /-- What follows the frame cannot be read. -/
  | drain (cause : IoError)
  | decode (cause : Payload.Error)
deriving DecidableEq, Repr

def Error.message : Error → String
  | connect addr cause => "Failed to connect to " ++ addr ++ ": " ++ cause.message
  | send cause => "Failed to send command: " ++ cause.message
  | receive cause => "Failed to read response: " ++ cause.message
  | noResponse => "Server closed the connection without a response"
  | drain cause => cause.message
  | decode cause => "Failed to decode response: " ++ cause.message

/-- What a client that is connected writes before it reads anything. -/
def request (flag : UInt8) : Bytes := [flag]

structure Report where
  result : Except Error Unit
  /-- What was written to the peer. -/
  request : Bytes
  /-- The lines that are printed, and no line of the log. -/
  output : List String
  log : List LogLine
deriving Repr

def trailing (count : Nat) : List LogLine :=
  if count = 0 then []
  else [⟨.warn, "Ignoring " ++ toString count ++ " trailing bytes"⟩]

def received (count : Nat) : LogLine := ⟨.info, "Received " ++ toString count ++ " records"⟩

/-- The places after the point of a printed measurement. -/
def places : Nat := 2

/-- The width in which a line's number is set. -/
def numberWidth : Nat := 4

def numberText (i : Nat) : String :=
  let ds := Nat.toDigits 10 i
  .ofList (List.replicate (numberWidth - ds.length) ' ' ++ ds)

def line (i : Nat) (r : Reading) : String :=
  numberText i ++
    String.join (r.fields.map fun p => "  " ++ p.1.name ++ "=" ++ p.2.fixed places)

def lines (rs : List Reading) : List String := (rs.zipIdx).map fun p => line p.2 p.1

/-- What a connected client, whose request is written, makes of the peer's reply. -/
def fetch (flag : UInt8) (reply : Frame.Source) : Report :=
  let (result, rest) := Frame.receive payloadLimit reply
  match result with
  | .error e => ⟨.error (.receive e), request flag, [], []⟩
  | .ok none => ⟨.error .noResponse, request flag, [], []⟩
  | .ok (some payload) =>
    match rest.failure with
    | some e => ⟨.error (.drain e), request flag, [], []⟩
    | none =>
      let warning := trailing rest.unread.length
      match Payload.decode payload with
      | .error e => ⟨.error (.decode e), request flag, [], warning⟩
      | .ok rs => ⟨.ok (), request flag, lines rs, warning ++ [received rs.length]⟩

/-- A client that cannot reach its peer writes nothing. -/
def unconnected (addr : String) (cause : IoError) : Report :=
  ⟨.error (.connect addr cause), [], [], []⟩

end Client
end TelemetryExport
