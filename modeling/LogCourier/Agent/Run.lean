import LogCourier.Agent.Basic
import LogCourier.Tailer.Run

/-! # Running agents

A running agent stands among files and in front of a network. What its tailers pass on goes to the
transport at once, as records, and the transport takes it from the queue whenever the tailers wait.
-/

namespace LogCourier

structure Running where
  files : FileSystem
  agent : Agent

inductive AgentEvent
  /-- Another program changes a file. -/
  | change (c : FileChange)
  /-- Something happens to the tailer at this place in the list. -/
  | tailer (index : Nat) (event : TailingEvent)
  | transport (event : TransportEvent)

/-- How long a transport may go on when everything else has stopped. -/
def Agent.shutdownGrace : Nat := 2000

namespace Running

/-- Takes what a tailer came to, and hands the records of its messages to the transport. -/
def put (clock : Clock) (index : Nat) (r : Running) (t : Tailing) (out : List Message) :
    Running where
  files := t.files
  agent := { r.agent with
    tailers := r.agent.tailers.set index t.tailer
    transport := r.agent.transport.submitAll (out.map (t.tailer.record r.agent.formatter clock)) }

def step (r : Running) (clock : Clock) (now : Nat) : AgentEvent → Running
  | .change c => { r with files := r.files.changed c }
  | .tailer index e =>
    match r.agent.tailers[index]? with
    | none => r
    | some t =>
      let (t, out) := Tailing.step { files := r.files, tailer := t } now e
      put clock index r t out
  | .transport e => { r with agent := { r.agent with transport := r.agent.transport.step e } }

/-! ## Runs -/

/-- Lets the transport forward what is queued; gives what reaches the collector. -/
def drain (r : Running) (n : Network) : Running × List Bytes :=
  let (transport, out) := r.agent.transport.forwardAll n
  ({ r with agent := { r.agent with transport } }, out)

/-- Does what is due to one tailer, again and again, until it waits for news or the time is over. -/
def settleAt (n : Network) (clock : Clock) (limit : Option Nat) (index : Nat) :
    Nat → Nat → Running → Running × List Bytes
  | 0, _, r => (r, [])
  | fuel + 1, now, r =>
    match r.agent.tailers[index]? with
    | none => (r, [])
    | some t =>
      let t : Tailing := { files := r.files, tailer := t }
      match t.due? with
      | none => (r, [])
      | some e =>
        if limit.any (· < t.dueAt now) then (r, [])
        else
          let (r, out) := (r.step clock (t.dueAt now) (.tailer index e)).drain n
          let (r, more) := settleAt n clock limit index fuel (t.dueAt now) r
          (r, out ++ more)

/-- Lets every tailer run until it waits for news or the time is over. -/
def settle (r : Running) (n : Network) (clock : Clock) (limit : Option Nat) (now : Nat) :
    Running × List Bytes :=
  Stage.run
    (fun (r : Running) index =>
      match r.agent.tailers[index]? with
      | none => (r, [])
      | some t =>
        settleAt n clock limit index (Tailing.patience { files := r.files, tailer := t }) now r)
    r (List.range r.agent.tailers.length)

/-- Starts the transport and the tailers. The tailers stop at a time, if one is given, and the
transport tries to reach the collector for as long as `grace` says after it. -/
def start (r : Running) (n : Network) (clock : Clock) (limit : Option Nat) (grace : Nat := 0) :
    Running :=
  let transport := r.agent.transport.start n (limit.map (· + grace))
  ({ r with agent := { r.agent with transport } }.settle n clock limit 0).1

/-- Another program changes a file, and all tailers look; gives what reaches the collector. -/
def react (r : Running) (n : Network) (clock : Clock) (now : Nat) (c : FileChange) :
    Running × List Bytes :=
  let r := r.step clock now (.change c)
  let (r, out) := Stage.run
    (fun (r : Running) index => (r.step clock now (.tailer index (.notice .changed))).drain n)
    r (List.range r.agent.tailers.length)
  let (r, more) := r.settle n clock none now
  (r, out ++ more)

/-- The tailers have stopped: a transport that is connected or bound ends by itself. -/
def stop (r : Running) (clock : Clock) (now : Nat) : Running :=
  r.step clock now (.transport .finished)

/-- What comes of an agent that is asked to stop at a time, while nothing happens to the files. -/
def runUntil (r : Running) (n : Network) (clock : Clock) (shutdown : Nat) :
    Except AgentError AgentStats :=
  ((r.start n clock (some shutdown) Agent.shutdownGrace).stop clock shutdown).agent.result

end Running

end LogCourier
