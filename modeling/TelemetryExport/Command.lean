import TelemetryExport.Text.Hex

/-! # Commands

A client opens an exchange with one byte, the flag of a command.  `Resolver.resolve` turns it
into a query on the store, or says why it cannot: only the newest records are served so far,
and only after the device accepted the configuration that is pushed to it. -/

namespace TelemetryExport

/-- What a client sent cannot be acted on, or it sent nothing. -/
inductive ProtocolError where
  | disconnected
  | timeout
  | unknownCommand (flag : UInt8)
  | notImplemented (flag : UInt8)
  | configRejected (status : UInt8)
deriving DecidableEq, Repr

def ProtocolError.message : ProtocolError → String
  | disconnected => "Peer closed the connection before sending a command"
  | timeout => "Timed out waiting for a command byte"
  | unknownCommand flag => "Unknown command flag 0x" ++ Text.hexByte flag
  | notImplemented flag =>
    "Command flag 0x" ++ Text.hexByte flag ++ " is reserved but not implemented"
  | configRejected status => "Device config rejected with status " ++ toString status.toNat

inductive Command where
  | lastRecords
  | rangeQuery
  | pushConfig
deriving DecidableEq, Repr

namespace Command

def flag : Command → UInt8
  | lastRecords => 1
  | rangeQuery => 2
  | pushConfig => 3

def ofFlag? (flag : UInt8) : Option Command :=
  [lastRecords, rangeQuery, pushConfig].find? (·.flag == flag)

end Command

/-- A question to the store about one device. -/
inductive Query where
  | lastN (deviceId : Int) (count : Nat)
  | range (deviceId first last : Int)
deriving DecidableEq, Repr

def Query.deviceId : Query → Int
  | .lastN deviceId _ => deviceId
  | .range deviceId _ _ => deviceId

/-- Pushes a configuration to a device, which answers how many records it wants and a status. -/
abbrev ConfigPusher := Bytes → Nat × UInt8

/-- The status of an accepted configuration. -/
def statusOk : UInt8 := 1

/-- Accepts every configuration and always asks for the same number of records. -/
def ConfigPusher.static (count : Nat) : ConfigPusher := fun _ => (count, statusOk)

structure Resolver where
  deviceId : Int
  pusher : ConfigPusher

/-- A flag's outcome, with the configurations that were pushed on the way. -/
structure Resolution where
  pushed : List Bytes
  outcome : Except ProtocolError Query

/-- Clients send no configuration of their own yet, so an empty one is pushed. -/
def Resolver.resolve (r : Resolver) (flag : UInt8) : Resolution :=
  match Command.ofFlag? flag with
  | none => ⟨[], .error (.unknownCommand flag)⟩
  | some .lastRecords =>
    let (count, status) := r.pusher []
    ⟨[[]], if status = statusOk then .ok (.lastN r.deviceId count)
      else .error (.configRejected status)⟩
  | some _ => ⟨[], .error (.notImplemented flag)⟩

end TelemetryExport
