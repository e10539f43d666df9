import TelemetryExport.Log
import TelemetryExport.Server.Capacity
import TelemetryExport.Store.Retry

/-! # Settings

What a server and its store are run with, in four groups, each with its defaults.  `problem?`
names the first setting whose value cannot be used. -/

namespace TelemetryExport

structure ServerSettings where
  bind : String := "0.0.0.0:5003"
  /-- How many exchanges may go on at once. -/
  maxConnections : Nat := 64
  /-- How long a client may take to send its command. -/
  readTimeoutSecs : Nat := 5
deriving DecidableEq, Repr

structure StoreSettings where
  path : String := "mqtt_data.db"
  busyTimeoutMs : Nat := 5000
  retryTimes : Nat := 3
  retryDelayMs : Nat := 100
deriving DecidableEq, Repr

structure ExportSettings where
  defaultDeviceId : Int := 1
  recordCount : Nat := 30
deriving DecidableEq, Repr

structure LogSettings where
  level : String := "info"
deriving DecidableEq, Repr

structure Settings where
  server : ServerSettings := {}
  store : StoreSettings := {}
  exporting : ExportSettings := {}
  log : LogSettings := {}
deriving DecidableEq, Repr

def LogSettings.verbosity? (s : LogSettings) : Option Verbosity := Verbosity.ofName? s.level

def StoreSettings.access (s : StoreSettings) : Store.Access := ⟨s.path, s.busyTimeoutMs⟩

def StoreSettings.retryPolicy (s : StoreSettings) : Store.RetryPolicy :=
  ⟨s.retryTimes, s.retryDelayMs⟩

namespace Settings

/-- A value of the right type that cannot be used. -/
inductive Problem where
  | maxConnections
  | readTimeout
  | level (text : String)
deriving DecidableEq, Repr

def Problem.message : Problem → String
  | maxConnections =>
    "server.max_connections must be between 1 and " ++ toString Server.maxCapacity
  | readTimeout => "server.read_timeout_secs must be at least 1"
  | level text => "Invalid log level: " ++ text

def problem? (s : Settings) : Option Problem :=
  if s.server.maxConnections < 1 ∨ Server.maxCapacity < s.server.maxConnections then
    some .maxConnections
  else if s.server.readTimeoutSecs < 1 then some .readTimeout
  else if s.log.verbosity?.isNone then some (.level s.log.level)
  else none

end Settings
end TelemetryExport
