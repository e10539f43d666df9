import TelemetryExport.Client
import TelemetryExport.CommandLine.Parse
import TelemetryExport.Seed
import TelemetryExport.Server.Run
import TelemetryExport.Server.Worker
import TelemetryExport.Settings.Loading
import TelemetryExport.Store.Image
import Std.Async.DNS
import Std.Async.Signal
import Std.Async.TCP
import Std.Async.Timer
import Std.Sync.Mutex
import Std.Time.DateTime.Timestamp

/-! # The program

Files, clocks, sockets and the two output streams, and nothing else: what is read goes to the
definitions of the library, and what they answer is written.  A server's sockets feed the steps
of `Server.State.step?`, so the program takes no path that is not a run of that machine. -/

namespace TelemetryExport
namespace Terminal

open Std.Async

/-! ### Files and clocks -/

/-- The operating system's number and text; some interfaces give the number below zero. -/
def systemError (code : UInt32) (text : String) : IoError :=
  let n := code.toNat
  .system .other text.capitalize (if n < 0x80000000 then n else 0x100000000 - n)

def ioError (e : IO.Error) : IoError :=
  match e with
  | .alreadyExists _ code text => systemError code text
  | .otherError code text => systemError code text
  | .resourceBusy code text => systemError code text
  | .resourceVanished code text => systemError code text
  | .unsupportedOperation code text => systemError code text
  | .hardwareFault code text => systemError code text
  | .unsatisfiedConstraints code text => systemError code text
  | .illegalOperation code text => systemError code text
  | .protocolError code text => systemError code text
  | .timeExpired code text => systemError code text
  | .interrupted _ code text => systemError code text
  | .noFileOrDirectory _ code text => systemError code text
  | .invalidArgument _ code text => systemError code text
  | .permissionDenied _ code text => systemError code text
  | .resourceExhausted _ code text => systemError code text
  | .inappropriateType _ code text => systemError code text
  | .noSuchThing _ code text => systemError code text
  | .unexpectedEof => .earlyEof
  | .userError text => ⟨.other, text⟩

def readContent (path : String) : IO Settings.FileContent := do
  try
    return .bytes (← IO.FS.readBinFile path).toList
  catch
    | .noFileOrDirectory .. => return .missing
    | e => return .refused (ioError e)

def readStore (path : String) : IO Store.File := do
  match ← readContent path with
  | .bytes content => return ⟨.ofBytes content, none⟩
  | .refused _ => return .unreachable
  | .missing =>
    try
      IO.FS.withFile path .append fun _ => pure ()
      IO.FS.removeFile path
      return .absent
    catch _ => return .unreachable

def writeStore (path : String) (before after : Store.File) : IO Unit := do
  if before.content ≠ after.content then
    if let some bytes := after.content.toBytes? then
      IO.FS.writeBinFile path ⟨bytes.toArray⟩

def now : IO Instant := do
  let t ← Std.Time.Timestamp.now
  let nanos : Int := t.toNanosecondsSinceUnixEpoch.val
  let seconds := nanos / nanosPerSecond
  if h : Timestamp.earliestSecond ≤ seconds ∧ seconds ≤ Timestamp.latestSecond then
    return ⟨⟨seconds, h.1, h.2⟩, nanoOfNat nanos.toNat⟩
  else throw (.userError "the clock is out of range")

def clock : IO Store.Clock := do
  let t ← Std.Time.Timestamp.now
  return ⟨t.toNanosecondsSinceUnixEpoch.val / 1000000⟩

/-! ### Output -/

def printLog (v : Verbosity) (lines : List LogLine) : IO Unit := do
  for line in lines do
    if v.admits line.level then
      let text := "[" ++ line.level.name ++ "] " ++ line.text
      if line.level = .error then IO.eprintln text
      else
        IO.println text
        (← IO.getStdout).flush

/-! ### Addresses -/

/-- A host and a service number, separated by the last colon. -/
def hostAndService? (addr : String) : Option (String × UInt16) := do
  let cs := addr.toList.reverse
  guard (cs.contains ':')
  let n ← CommandLine.natural? (.ofList (cs.takeWhile (· != ':')).reverse)
  guard (n < 65536)
  return (.ofList ((cs.dropWhile (· != ':')).drop 1).reverse, UInt16.ofNat n)

/-- The sixth generation writes its addresses in brackets. -/
def bracketed? (host : String) : Option Std.Net.IPv6Addr :=
  match host.toList with
  | '[' :: r =>
    if r.getLast? = some ']' then Std.Net.IPv6Addr.ofString (.ofList r.dropLast) else none
  | _ => none

def addressText (a : Std.Net.SocketAddress) : String :=
  match a with
  | .v4 ⟨ip, n⟩ => ip.toString ++ ":" ++ toString n.toNat
  | .v6 ⟨ip, n⟩ => "[" ++ ip.toString ++ "]:" ++ toString n.toNat

def socketAddress (addr : String) : IO Std.Net.SocketAddress := do
  let some (host, n) := hostAndService? addr | throw (.userError "invalid socket address")
  match Std.Net.IPv4Addr.ofString host, bracketed? host with
  | some ip, _ => return .v4 ⟨ip, n⟩
  | none, some ip => return .v6 ⟨ip, n⟩
  | none, none =>
    let found ← Async.block (DNS.getAddrInfo host (toString n.toNat))
    match found.toList with
    | .v4 ip :: _ => return .v4 ⟨ip, n⟩
    | .v6 ip :: _ => return .v6 ⟨ip, n⟩
    | [] => throw (.userError "failed to lookup address information")

/-! ### The server -/

structure Shared where
  settings : Settings
  verbosity : Verbosity
  resolver : Resolver
  state : Std.Mutex Server.State

/-- Takes a step if it is possible, and prints the lines it writes. -/
def Shared.step (sh : Shared) (step : Server.Step) : IO Bool :=
  sh.state.atomically do
    let s ← get
    match s.step? sh.resolver step with
    | none => return false
    | some t =>
      set t
      printLog sh.verbosity ((t.log.drop s.log.length).map Server.Entry.line)
      return true

def Shared.phase (sh : Shared) (index : Nat) : IO (Option Server.Phase) :=
  sh.state.atomically do return (← get).connections[index]?.map (·.exchange.phase)

/-- The first byte of a client, or why there is none. -/
def firstByte (sh : Shared) (socket : TCP.Socket.Client) : IO Server.Event := do
  let milliseconds := 1000 * sh.settings.server.readTimeoutSecs
  try
    Async.block do
      let timeout ← Selector.sleep ⟨milliseconds⟩
      Selectable.one #[
        .case (socket.recvSelector 1) fun received => return match received with
          | some bytes => .arrived bytes.toList
          | none => .closed,
        .case timeout fun _ => return .timedOut]
  catch e => return .readFailed (ioError e)

def answer (sh : Shared) (q : Query) : IO Server.Event := do
  let s := sh.settings.store
  let tried := (← readStore s.path).query s.access s.retryPolicy q (← clock)
  printLog sh.verbosity tried.log
  return .answered (Server.storeAnswer "0" tried)

/-- The next event of an exchange, as the client, the store or the socket makes it. -/
def nextEvent (sh : Shared) (socket : TCP.Socket.Client) (phase : Server.Phase) :
    IO (Option Server.Event) := do
  match phase.demand? with
  | none => return none
  | some .command => return some (← firstByte sh socket)
  | some (.answer q) => return some (← answer sh q)
  | some (.room bytes) =>
    try
      (socket.send ⟨bytes.toArray⟩).block
      return some (.wrote (.accepts bytes.length))
    catch e => return some (.wrote (.fails (ioError e)))
  | some .flush => return some (.flushed .done)
  | some .shutdown =>
    try
      socket.shutdown.block
      return some (.shut none)
    catch e => return some (.shut (some (ioError e)))

partial def work (sh : Shared) (index : Nat) (socket : TCP.Socket.Client) : IO Unit := do
  let some phase ← sh.phase index | return
  let some e ← nextEvent sh socket phase | return
  discard <| sh.step (.event index e)
  work sh index socket

/-- How long to wait before a step that was not possible is tried again, in milliseconds. -/
def pollInterval : Nat := 10

def acceptBackoff : Nat := 100

def startWorker (sh : Shared) (socket : TCP.Socket.Client) : IO Unit := do
  let peer := addressText (← socket.getPeerName)
  let index ← sh.state.atomically do return (← get).connections.length
  if ← sh.step (.accept peer) then
    discard <| IO.asTask (work sh index socket) .dedicated

/-- Waits for a client; nothing if the server was told to stop instead. -/
def nextClient (listener : TCP.Socket.Server) (interrupt : Signal.Waiter) :
    IO (Option TCP.Socket.Client) :=
  Async.block <| Selectable.one #[
    .case listener.acceptSelector fun socket => return some socket,
    .case interrupt.selector fun _ => return none]

def interrupted (interrupt : Signal.Waiter) : IO Bool := do
  Async.block do
    let pause ← Selector.sleep ⟨pollInterval⟩
    Selectable.one #[
      .case interrupt.selector fun _ => return true,
      .case pause fun _ => return false]

partial def acceptAll (sh : Shared) (listener : TCP.Socket.Server) (interrupt : Signal.Waiter) :
    IO Unit := do
  let holds ← sh.state.atomically do return (← get).acceptor == .holding
  if holds || (← sh.step .takeSlot) then
    match ← (nextClient listener interrupt).toBaseIO with
    | .ok none => return
    | .ok (some socket) => startWorker sh socket
    | .error e =>
      discard <| sh.step (.acceptFails (ioError e))
      IO.sleep (UInt32.ofNat acceptBackoff)
      discard <| sh.step .resume
    acceptAll sh listener interrupt
  else if ← interrupted interrupt then return
  else acceptAll sh listener interrupt

def waitForWorkers (sh : Shared) : Nat → IO Unit
  | 0 => discard <| sh.step .giveUp
  | tries + 1 => do
    unless ← sh.step .drained do
      IO.sleep (UInt32.ofNat pollInterval)
      waitForWorkers sh tries

def failure (context : String) (e : IO.Error) : Except String Unit :=
  .error (context ++ ": " ++ (ioError e).message)

def serve (s : Settings) (v : Verbosity) : IO (Except String Unit) := do
  let before ← readStore s.store.path
  let (result, after) := before.init s.store.access
  writeStore s.store.path before after
  if let .error e := result then
    return .error (Seed.Error.prepare e).message
  try
    let listener ← TCP.Socket.Server.mk
    listener.bind (← socketAddress s.server.bind)
    listener.listen 1024
    let interrupt ← Signal.Waiter.mk .sigint false
    printLog v [⟨.info, "Serving " ++ s.store.path ++ " on " ++
      addressText (← listener.getSockName) ++ " (max " ++ toString s.server.maxConnections ++
      " connections)"⟩]
    let resolver : Resolver :=
      ⟨s.exporting.defaultDeviceId, ConfigPusher.static s.exporting.recordCount⟩
    let state ← Std.Mutex.new (Server.State.start s.server.maxConnections)
    let sh : Shared := ⟨s, v, resolver, state⟩
    acceptAll sh listener interrupt
    discard <| sh.step .stop
    waitForWorkers sh (1000 * Server.drainSeconds / pollInterval)
    return .ok ()
  catch e => return failure ("Failed to bind " ++ s.server.bind) e

/-! ### The client -/

partial def readAll (socket : TCP.Socket.Client) (pieces : Array Frame.Arrival) :
    IO Frame.Source := do
  match ← ((socket.recv? 65536).block).toBaseIO with
  | .ok none => return ⟨pieces.toList, none⟩
  | .ok (some bytes) => readAll socket (pieces.push (.piece bytes.toList))
  | .error e => return ⟨pieces.toList, some (ioError e)⟩

def exchange (socket : TCP.Socket.Client) (flag : UInt8) : IO Client.Report := do
  match ← ((socket.send ⟨(Client.request flag).toArray⟩).block).toBaseIO with
  | .error e => return ⟨.error (.send (ioError e)), [], [], []⟩
  | .ok () => return Client.fetch flag (← readAll socket #[])

def fetch (v : Verbosity) (addr : String) (flag : UInt8) : IO (Except String Unit) := do
  let connect : IO TCP.Socket.Client := do
    let socket ← TCP.Socket.Client.mk
    (socket.connect (← socketAddress addr)).block
    return socket
  let report ← match ← connect.toBaseIO with
    | .error e => pure (Client.unconnected addr (ioError e))
    | .ok socket => exchange socket flag
  printLog v report.log
  for line in report.output do
    IO.println line
  return report.result.mapError Client.Error.message

/-! ### Everything together -/

def seed (s : Settings) (v : Verbosity) (deviceId : Int) (count : Nat) :
    IO (Except String Unit) := do
  let before ← readStore s.store.path
  let (result, after) := Seed.run s.store deviceId count (← now) before
  writeStore s.store.path before after
  match result with
  | .ok lines =>
    printLog v lines
    return .ok ()
  | .error e => return .error e.message

def perform (s : Settings) (v : Verbosity) (a : CommandLine.Action) : IO (Except String Unit) :=
  match a with
  | .serve => serve s v
  | .fetch addr flag => fetch v addr flag
  | .seed deviceId count => seed s v deviceId count

/-- Which settings are in effect. -/
def origin (path : String) (file : Settings.FileContent) : LogLine :=
  match file with
  | .missing => ⟨.warn, "No config file at " ++ path ++ ", using defaults"⟩
  | _ => ⟨.info, "Loaded config from " ++ path⟩

def invoke (i : CommandLine.Invocation) : IO UInt32 := do
  let file ← readContent i.config
  match Settings.loadOrDefault i.config file with
  | .error e =>
    for line in e.report do
      IO.eprintln line
    return 1
  | .ok s =>
    let v := s.log.verbosity?.getD .info
    printLog v [origin i.config file]
    match ← perform s v (i.action.getD .serve) with
    | .ok () => return 0
    | .error text =>
      printLog v [⟨.error, text⟩]
      return 1

end Terminal
end TelemetryExport

open TelemetryExport in
def main (args : List String) : IO UInt32 := do
  match CommandLine.parse (← IO.getEnv CommandLine.configVariable) args with
  | .ok i => Terminal.invoke i
  | .error (.help text) =>
    IO.print text
    return 0
  | .error .version =>
    IO.print CommandLine.versionText
    return 0
  | .error (.usage e) =>
    IO.eprintln ("error: " ++ e.message)
    return 2
