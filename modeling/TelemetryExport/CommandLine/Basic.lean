import TelemetryExport.Binary.Number
import TelemetryExport.Decimal.Digits

/-! # The command line's words

The program takes the path of its settings and possibly a subcommand with options of its own.
`Given` holds the values that the options of one level were given, each at most once;
`Given.set` reads a value, and `Action.of` fills in the defaults. -/

namespace TelemetryExport
namespace CommandLine

inductive Subcommand where
  | serve
  | fetch
  | seed
deriving DecidableEq, Repr

namespace Subcommand

def all : List Subcommand := [serve, fetch, seed]

def name : Subcommand → String
  | serve => "serve"
  | fetch => "fetch"
  | seed => "seed"

def ofName? (name : String) : Option Subcommand := all.find? (·.name == name)

end Subcommand

/-- The options that take a value. -/
inductive Opt where
  | config
  | addr
  | flag
  | deviceId
  | count
deriving DecidableEq, Repr

namespace Opt

def long : Opt → String
  | config => "config"
  | addr => "addr"
  | flag => "flag"
  | deviceId => "device-id"
  | count => "count"

def short : Opt → Char
  | config => 'c'
  | addr => 'a'
  | flag => 'f'
  | deviceId => 'd'
  | count => 'n'

/-- The text of the value that an option has when it is not given. -/
def default : Opt → String
  | config => "config/farm-export.toml"
  | addr => "127.0.0.1:5003"
  | flag => "1"
  | deviceId => "1"
  | count => "100"

end Opt

/-- The options that take no value; each ends the reading of the command line. -/
inductive Switch where
  | help
  | version
deriving DecidableEq, Repr

namespace Switch

def long : Switch → String
  | help => "help"
  | version => "version"

def short : Switch → Char
  | help => 'h'
  | version => 'V'

end Switch

/-- The program itself or one of its subcommands. -/
inductive Level where
  | program
  | subcommand (s : Subcommand)
deriving DecidableEq, Repr

namespace Level

def options : Level → List Opt
  | program => [.config]
  | subcommand .serve => []
  | subcommand .fetch => [.addr, .flag]
  | subcommand .seed => [.deviceId, .count]

def switches : Level → List Switch
  | program => [.help, .version]
  | subcommand _ => [.help]

end Level

inductive UsageError where
  | unknownArgument
  /-- A value is missing, or empty where it must not be. -/
  | invalidValue
  /-- A value is not a number in range. -/
  | valueValidation
  | invalidSubcommand
  /-- An option is given twice. -/
  | argumentConflict
  /-- A switch is given a value. -/
  | tooManyValues
deriving DecidableEq, Repr

def UsageError.message : UsageError → String
  | unknownArgument => "unexpected argument"
  | invalidValue => "a value is required"
  | valueValidation => "invalid value"
  | invalidSubcommand => "unrecognized subcommand"
  | argumentConflict => "an argument cannot be used multiple times"
  | tooManyValues => "unexpected value"

/-! ### Values -/

/-- A decimal integer with an optional sign. -/
def integer? (text : String) : Option Int :=
  let (negative, ds) := takeSign text.toList
  if ds.isEmpty || !ds.all Char.isDigit then none
  else some (Datum.withSign negative (naturalOfDigits ds))

/-- A decimal integer between two bounds. -/
def integerWithin? (low high : Int) (text : String) : Option Int :=
  (integer? text).filter fun i => low ≤ i && i ≤ high

/-- A decimal natural number of at most 64 bits, which takes no minus sign. -/
def natural? (text : String) : Option Nat :=
  if text.toList.head? = some '-' then none
  else (integerWithin? 0 18446744073709551615 text).map Int.toNat

structure Given where
  config : Option String := none
  addr : Option String := none
  flag : Option UInt8 := none
  deviceId : Option Int := none
  count : Option Nat := none
deriving DecidableEq, Repr

namespace Given

def has (g : Given) : Opt → Bool
  | .config => g.config.isSome
  | .addr => g.addr.isSome
  | .flag => g.flag.isSome
  | .deviceId => g.deviceId.isSome
  | .count => g.count.isSome

/-- Reads a value for an option that has none yet. -/
def read (g : Given) (raw : String) : Opt → Except UsageError Given
  | .config => if raw.isEmpty then .error .invalidValue else .ok { g with config := some raw }
  | .addr => .ok { g with addr := some raw }
  | .flag =>
    match integerWithin? 0 255 raw with
    | some i => .ok { g with flag := some (UInt8.ofNat i.toNat) }
    | none => .error .valueValidation
  | .deviceId =>
    match integerWithin? minInt64 maxInt64 raw with
    | some i => .ok { g with deviceId := some i }
    | none => .error .valueValidation
  | .count =>
    match natural? raw with
    | some n => .ok { g with count := some n }
    | none => .error .valueValidation

def set (g : Given) (o : Opt) (raw : String) : Except UsageError Given :=
  if g.has o then .error .argumentConflict else g.read raw o

end Given

/-! ### What is asked for -/

inductive Action where
  | serve
  | fetch (addr : String) (flag : UInt8)
  | seed (deviceId : Int) (count : Nat)
deriving DecidableEq, Repr

def Action.of (g : Given) : Subcommand → Action
  | .serve => .serve
  | .fetch => .fetch (g.addr.getD Opt.addr.default) (g.flag.getD 1)
  | .seed => .seed (g.deviceId.getD 1) (g.count.getD 100)

structure Invocation where
  /-- The path of the settings. -/
  config : String
  action : Option Action
deriving DecidableEq, Repr

end CommandLine
end TelemetryExport
