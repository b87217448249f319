import Std.Async
import Std.Time
import LogCourier.Agent.Run
import LogCourier.Program.Log
import LogCourier.Program.Start
import LogCourier.Wire.Timestamp

/-! # The machine

The only module that touches files, sockets and clocks. An agent is run here by its own steps: each
look at the machine becomes an event, and each effect of an event is carried out. Files are known by
their paths, so one that takes another's place between two looks is taken for the same file.
-/

namespace LogCourier.Machine

open Std.Async Std.Net

/-- The number of an error that the system reports; some parts of the system count downwards from
2³². -/
def numberOf (e : IO.Error) : Nat :=
  let code : UInt32 := match e with
    | .alreadyExists _ n _ | .otherError n _ | .resourceBusy n _ | .resourceVanished n _
    | .unsupportedOperation n _ | .hardwareFault n _ | .unsatisfiedConstraints n _
    | .illegalOperation n _ | .protocolError n _ | .timeExpired n _ | .interrupted _ n _
    | .noFileOrDirectory _ n _ | .invalidArgument _ n _ | .permissionDenied _ n _
    | .resourceExhausted _ n _ | .inappropriateType _ n _ | .noSuchThing _ n _ => n
    | .unexpectedEof | .userError _ => 0
  (if code < 0x80000000 then code else 0 - code).toNat

/-- The cause behind an error that the system reports. -/
def causeOf (e : IO.Error) : SystemError :=
  (SystemError.ofNumber? (numberOf e)).getD (.other (toString e))

/-- Runs an action for its result or the cause of its failure. -/
def attempt {α : Type} (act : IO α) : IO (Except SystemError α) := do
  try return .ok (← act) catch e => return .error (causeOf e)

/-! ## Clocks -/

def moment : IO Moment := do
  let now ← Std.Time.Timestamp.now
  return { seconds := now.toSecondsSinceUnixEpoch.val }

/-- Seconds from universal time to the time of the place; none if the place is not known. -/
def offset : IO Int := do
  try
    let rules ← Std.Time.Database.defaultGetLocalZoneRules
    let now ← Std.Time.Timestamp.now
    return (rules.findLocalTimeTypeForTimestamp now).gmtOffset.second.val
  catch _ => return 0

def clock : IO Clock := do
  return ⟨Timestamp.render (← moment) (← offset)⟩

/-! ## Files -/

def readFile (path : String) : IO (Except SystemError Bytes) :=
  attempt do return (← IO.FS.readBinFile path).toList

/-- The directories above a path. -/
def directoriesOf (path : String) : List Place :=
  let names := (Text.split '/' path).filter (· ≠ "")
  (List.range names.length).map names.take

/-- The directories that the settings speak of, with nothing in them. -/
def noFiles (s : Settings) : FileSystem :=
  .ofDirectories [] (s.sources.flatMap fun x => directoriesOf x.path).eraseDups

/-! ## The collector -/

/-- What leads to the collector. -/
inductive Link
  | none
  | connection (socket : TCP.Socket.Client) (inbound : AsyncTask (Option ByteArray))
  | datagrams (socket : UDP.Socket) (collector : SocketAddress)

def socketAddress (ip : IPAddr) (number : Nat) : SocketAddress :=
  match ip with
  | .v4 addr => .v4 { addr, port := number.toUInt16 }
  | .v6 addr => .v6 { addr, port := number.toUInt16 }

def resolve (remote : String) : IO (Except ReachError SocketAddress) := do
  match CollectorAddress.read remote with
  | .error e => return .error e
  | .ok a =>
    match ← attempt (DNS.getAddrInfo a.host (toString a.number)).block with
    | .error e => return .error (.unknownName e.message)
    | .ok found =>
      match found[0]? with
      | some ip => return .ok (socketAddress ip a.number)
      | none => return .error (.unknownName "no addresses")

/-- How much is read at a time from a collector that should send nothing. -/
def inboundSize : UInt64 := 1024

def connect (collector : SocketAddress) : IO Link := do
  let socket ← TCP.Socket.Client.mk
  (socket.connect collector).block
  return .connection socket (← (socket.recv? inboundSize).toIO)

def bind (collector : SocketAddress) : IO Link := do
  let socket ← UDP.Socket.mk
  socket.bind (match collector with
    | .v4 _ => .v4 { addr := .ofParts 0 0 0 0, port := 0 }
    | .v6 _ => .v6 { addr := .ofParts 0 0 0 0 0 0 0 0, port := 0 })
  return .datagrams socket collector

def endpoint : SocketAddress → Endpoint
  | .v4 a =>
    { ip := .v4 (a.addr.octets.toList.foldl (fun n b => n * 0x100 + b.toNat) 0)
      number := a.port.toNat }
  | .v6 a => { ip := .v6 (a.addr.segments.toList.map UInt16.toNat), number := a.port.toNat }

/-- What came of an attempt to reach the collector. -/
inductive Reached
  | unresolved (cause : ReachError)
  | refused (collector : SocketAddress) (cause : SystemError)
  | linked (collector : SocketAddress) (link : Link)

/-- One attempt to reach the collector. -/
def reach (protocol : Protocol) (remote : String) : IO Reached := do
  match ← resolve remote with
  | .error e => return .unresolved e
  | .ok collector =>
    let link ← attempt (match protocol with
      | .tcp => connect collector
      | .udp => bind collector)
    return match link with
      | .ok link => .linked collector link
      | .error e => .refused collector e

def Reached.outcome : Reached → Except ReachError Unit
  | .unresolved e => .error e
  | .refused _ e => .error (.system e)
  | .linked _ _ => .ok ()

/-- Writes a message to the collector. -/
def Link.write (l : Link) (message : Bytes) : IO Bool := do
  let sent ← attempt (match l with
    | .none => throw (.userError "not connected")
    | .connection socket _ => (socket.send message.toByteArray).block
    | .datagrams socket collector =>
      (socket.send message.toByteArray (some collector)).block)
  return sent.toBool

/-! ## Running an agent -/

structure Station where
  settings : Settings
  running : Running
  link : Link := .none
  /-- When the next attempt to reach the collector is due. -/
  nextAttempt : Nat := 0
  /-- For each tailer, when it looks again or tries again to open its file. -/
  wake : List Nat
  report : LogEntry → IO Unit

namespace Station

def transport (st : Station) : Transport := st.running.agent.transport

def step (st : Station) (clock : Clock) (now : Nat) (e : AgentEvent) : Station :=
  { st with running := st.running.step clock now e }

/-- What a tailer does now. -/
def due? (st : Station) (now : Nat) (index : Nat) (t : Tailer) : Option TailingEvent :=
  let awake := st.wake.getD index 0 ≤ now
  match t.opened with
  | some ⟨_, .busy _⟩ => some .complete
  | some _ => if t.phase = .opened ∨ awake then some (.notice .changed) else none
  | none =>
    if t.phase = .stopped ∨ (t.phase = .retryWait ∧ !awake) then none else some .attempt

/-- Reports an attempt to open a file. -/
def reportOpening (st : Station) (old new : Tailer) : IO Unit := do
  if new.stats.openAttempts ≠ old.stats.openAttempts then
    if new.opened.isSome then st.report (Program.Log.fileOpened new.source)
    else
      match ← readFile new.source.path with
      | .error e =>
        st.report (Program.Log.fileNotOpened new.source new.attempts new.maxOpenAttempts e)
      | .ok _ => pure ()
      if new.phase = .stopped then st.report (Program.Log.fileGivenUp new.source new.attempts)

/-- Takes note of the file at a path. -/
def look (st : Station) (path : String) : IO Station := do
  let files := st.running.files
  let files ← match ← readFile path with
    | .ok content =>
      if (files.read path).toOption == some content then pure files
      else pure (files.changed (.write path content))
    | .error _ => pure (files.changed (.remove path))
  return { st with running := { st.running with files } }

/-- Lets a tailer do what is due, and empties its file if the tailer has done so. A read that comes
back needs no further look at the file. -/
def tail (st : Station) (clock : Clock) (now index : Nat) : IO Station := do
  let some t := st.running.agent.tailers[index]? | return st
  let some e := st.due? now index t | return st
  let st ← if e = .complete then pure st else st.look t.source.path
  let st := st.step clock now (.tailer index e)
  let some new := st.running.agent.tailers[index]? | return st
  st.reportOpening t new
  if new.stats.truncations ≠ t.stats.truncations then
    discard (attempt (IO.FS.writeFile t.source.path ""))
  let pause :=
    if new.phase = .retryWait then new.openRetryDelay else st.settings.pollInterval
  return { st with wake := st.wake.set index (now + pause) }

/-- Writes everything that is queued. -/
partial def drain (st : Station) (clock : Clock) (now : Nat) : IO Station := do
  if st.transport.queue.items.isEmpty then return st
  let st := st.step clock now (.transport .take)
  match st.transport.writing with
  | some message =>
    (st.step clock now (.transport (.written (← st.link.write message)))).drain clock now
  | none => if st.transport.ended.isSome then return st else st.drain clock now

/-- Reports an attempt to reach the collector that leads to this transport. -/
def reportReach (st : Station) (reached : Reached) (t : Transport) : IO Unit := do
  let remote := st.settings.remoteAddress
  let attempts := match t with
    | .stream c => c.attempts
    | .datagram s => s.queue.stats.connectAttempts
  let failed (phase : ConnectionPhase) (e : ReachError) : List LogEntry :=
    Program.Log.notConnected remote phase attempts st.settings.maxConnectAttempts e ::
      if t.ended.isSome then [Program.Log.exhausted remote attempts] else []
  let resolved (a : SocketAddress) : LogEntry := Program.Log.resolved remote (endpoint a)
  let entries := match st.settings.protocol, reached with
    | .tcp, .unresolved e => failed .resolving e
    | .tcp, .refused a e => resolved a :: failed .connecting (.system e)
    | .tcp, .linked a _ => [resolved a, Program.Log.connected remote]
    | .udp, .unresolved e => [Program.Log.notBound remote e]
    | .udp, .refused _ e => [Program.Log.notBound remote (.system e)]
    | .udp, .linked a _ => [Program.Log.bound remote (endpoint a)]
  entries.forM st.report

/-- Makes an attempt to reach the collector. -/
def tryReach (st : Station) (clock : Clock) (now : Nat) : IO Station := do
  let protocol := st.settings.protocol
  st.report (Program.Log.resolving (if protocol = .tcp then .connector else .datagrams)
    st.settings.remoteAddress)
  let reached ← reach protocol st.settings.remoteAddress
  let next := st.step clock now (.transport (.attempt reached.outcome))
  st.reportReach reached next.transport
  match reached with
  | .linked _ link => return { next with link }
  | _ => return { next with nextAttempt := now + st.settings.connectRetryDelay }

/-- Whether the transport still has to find its collector. -/
def isApart (st : Station) : Bool :=
  match st.transport with
  | .stream c => c.ended.isNone && c.phase ≠ .established
  | .datagram s => !s.started

/-- Notices what the collector sends, and that it has gone away. -/
def listen (st : Station) (clock : Clock) (now : Nat) : IO Station := do
  let .connection socket inbound := st.link | return st
  if !(← IO.hasFinished inbound) then return st
  match ← attempt inbound.block with
  | .ok (some _) =>
    let inbound ← (socket.recv? inboundSize).toIO
    return { st.step clock now (.transport .inbound) with link := .connection socket inbound }
  | _ => return { st.step clock now (.transport .lost) with link := .none, nextAttempt := now }

/-- The transport's part of a turn. -/
def deliver (st : Station) (clock : Clock) (now : Nat) : IO Station := do
  let st ← st.listen clock now
  let st ← if st.isApart ∧ st.nextAttempt ≤ now then st.tryReach clock now else pure st
  st.drain clock now

/-- One turn of everything. -/
def turn (st : Station) : IO Station := do
  let clock ← Machine.clock
  let now ← IO.monoMsNow
  let st ← (List.range st.running.agent.tailers.length).foldlM
    (fun st index => tail st clock now index) st
  st.deliver clock now

/-- How long a turn waits for the next, in milliseconds. -/
def pause : UInt32 := 20

/-- Runs until the transport ends or somebody asks to stop. -/
partial def run (st : Station) (asked : IO Bool) : IO Station := do
  if st.transport.ended.isSome ∨ (← asked) then return st
  let st ← st.turn
  IO.sleep pause
  st.run asked

/-- The tailers have stopped; the transport has until a given time to end. -/
partial def stop (st : Station) (until_ : Nat) : IO Station := do
  let now ← IO.monoMsNow
  if st.transport.ended.isSome then return st
  if until_ ≤ now then
    st.report Program.Log.graceOver
    return st
  let clock ← Machine.clock
  let st ← st.deliver clock now
  let st := st.step clock now (.transport .finished)
  if st.transport.ended.isNone then IO.sleep pause
  st.stop until_

end Station

end LogCourier.Machine
