import PeripheralLink.Carrier
import PeripheralLink.Link.Basic
/-!
A rig: links with their notification sinks over one outside, the clients of the notification
backend, and a journal.  The rig performs what a link asks for, in order.

Two moments of an update let other calls in: while a connection is being made, and while a callback
is told of an edge.  What happens then is given to `Rig.update` as a function on the rig.
-/

namespace PeripheralLink

structure LinkOptions (τ : Type) where
  limits : TransportLimits τ
  codec : Codec
  healthInterval : τ
  statusInterval : τ
  backoff : Backoff τ

/-- A link with its sink and the bounds of its transports. -/
structure Station (τ : Type) where
  link : Link τ
  limits : TransportLimits τ
  sink : Sink

/-- The bridge: its sink, whether it made that itself, and the number of its link. -/
structure Bridge where
  sink : Option Sink := none
  ownsSink : Bool := false
  station : Option Nat := none

/-- Links over one outside. -/
structure Rig (σ τ : Type) where
  outside : σ
  stations : Array (Station τ) := #[]
  clients : Array Client := #[]
  freshClient : Client := {}
  callbackFault : Option String := none
  bridge : Bridge := {}
  journal : Array (Entry τ) := #[]

namespace Rig

variable {σ τ : Type}

def record (r : Rig σ τ) (e : Entry τ) : Rig σ τ := { r with journal := r.journal.push e }

def report (r : Rig σ τ) (n : Report τ) : Rig σ τ := r.record (.report n)

def link? (r : Rig σ τ) (k : Nat) : Option (Link τ) := r.stations[k]?.map Station.link

def setLink (r : Rig σ τ) (k : Nat) (l : Link τ) : Rig σ τ :=
  { r with stations := r.stations.modify k fun s => { s with link := l } }

/-- Hands a notification to a sink. -/
def deliver (r : Rig σ τ) (sink : Sink) (n : Notification) (reaction : Rig σ τ → Rig σ τ) :
    Except Fault Unit × Rig σ τ :=
  match sink with
  | .log => (.ok (), r.report (.sink (.shown n)))
  | .callback =>
    let r := reaction (r.record (.notified n))
    (match r.callbackFault with | some text => .error (.breakdown text) | none => .ok (), r)
  | .bare => (.error .missing, r)
  | .backend _ client =>
    let c := r.clients[client]?.getD {}
    if c.connected then
      let r := r.record (.client (.emit notificationEvent n))
      match c.emitFault with
      | none => (.ok (), r)
      | some (.refused text) => (.ok (), r.report (.sink (.emitFailed text)))
      | some (.backend text) => (.ok (), r.report (.sink (.emitFailed text)))
      | some fault => (.error fault, r)
    else (.ok (), r.report (.sink (.shownOffline n)))

/-- Tells a sink of an edge.  A failure of the sink is reported and goes no further. -/
def tell (r : Rig σ τ) (sink : Sink) (e : Edge) (reaction : Rig σ τ → Rig σ τ) : Rig σ τ :=
  match r.deliver sink e.notification reaction with
  | (.ok (), r) => r
  | (.error fault, r) => r.report (.sink (.sinkFailed fault.text))

/-- Makes a client of a backend, unless one is `given`. -/
def openBackend (r : Rig σ τ) (url : String) (given : Bool) : Sink × Rig σ τ :=
  let client := r.clients.size
  let r := { r with clients := r.clients.push r.freshClient }
  let r := if given then r else r.record (.client (.create true 2))
  (.backend url client, r.report (.sink (.initialized url)))

def setClient (r : Rig σ τ) (client : Nat) (change : Client → Client) : Rig σ τ :=
  { r with clients := r.clients.modify client change }

/-- Connects the client of a backend.  A refusal leaves the sink with the log alone. -/
def connectSink (r : Rig σ τ) (sink : Sink) : Except Fault Bool × Rig σ τ :=
  match sink with
  | .backend url client =>
    let r := (r.report (.sink (.connecting url))).record (.client (.connect url 1))
    match (r.clients[client]?.getD {}).connectFault with
    | none => (.ok true, r.setClient client fun c => { c with connected := true })
    | some (.refused text) =>
      (.ok false, (r.report (.sink (.connectFailed text))).report (.sink .logOnly))
    | some fault => (.error fault, r)
  | _ => (.ok false, r)

/-- Disconnects the client of a backend, if it is connected. -/
def closeSink (r : Rig σ τ) (sink : Sink) : Rig σ τ :=
  match sink with
  | .backend _ client =>
    if (r.clients[client]?.getD {}).connected then
      (r.record (.client .disconnect)).setClient client fun c => { c with connected := false }
    else r
  | _ => r

variable [Carrier σ τ]

def now (r : Rig σ τ) : τ := Carrier.now r.outside

/-- Calls the outside, and takes over its journal. -/
def via {α : Type} (r : Rig σ τ) (call : σ → α × σ) : α × Rig σ τ :=
  let (result, outside) := call r.outside
  let (entries, outside) := Carrier.drain outside
  (result, { r with outside, journal := r.journal ++ entries.map OutsideEntry.entry })

def wait (r : Rig σ τ) (time : τ) : Rig σ τ := { r with outside := Carrier.wait r.outside time }

def perform (r : Rig σ τ) (actions : List (LinkAction τ)) : Rig σ τ :=
  actions.foldl (fun r action => match action with
    | .release id => (r.via fun o => ((), Carrier.disconnect o id)).2
    | .report n => r.report (.link n)) r

/-- Changes a link, and performs what it asks for. -/
def change (r : Rig σ τ) (k : Nat) (operation : Link τ → Link τ × List (LinkAction τ)) : Rig σ τ :=
  match r.link? k with
  | none => r
  | some l =>
    let (l, actions) := operation l
    (r.setLink k l).perform actions

/-- Adds a link, which starts disabled. -/
def addLink [Zero τ] (r : Rig σ τ) (options : LinkOptions τ) (target : Target) (sink : Sink) :
    Nat × Rig σ τ :=
  let link : Link τ := {
    target
    codec := options.codec
    enteredAt := r.now
    backoff := options.backoff
    health := ⟨options.healthInterval, 0⟩
    status := ⟨options.statusInterval, r.now⟩ }
  (r.stations.size, { r with stations := r.stations.push ⟨link, options.limits, sink⟩ }.report
    (.link (.initialized target)))

def setEnabled (r : Rig σ τ) (k : Nat) (on : Bool) : Rig σ τ := r.change k (·.setEnabled r.now on)

def configure (r : Rig σ τ) (k : Nat) (target : Target) : Rig σ τ :=
  r.change k (·.configure r.now target)

def shutDownLink (r : Rig σ τ) (k : Nat) : Rig σ τ := r.change k (·.shutDown r.now)

def abort (r : Rig σ τ) (k : Nat) : Rig σ τ := r.change k fun l => (l.abort, [])

def send (r : Rig σ τ) (k : Nat) (m : Message) : Except Fault Bool × Rig σ τ :=
  match (r.link? k).bind Link.channel? with
  | none => (.ok false, r)
  | some id =>
    match m.lineBytes with
    | .error e =>
      if e.isMalformed then (.ok false, (r.report (.link (.notEncoded e))).change k fun l =>
        (l.countFailed, []))
      else (.error (.line e), r)
    | .ok bytes =>
      let (delivered, r) := r.via fun o => Carrier.send o id bytes
      (.ok delivered, r.change k (·.sent m delivered))

/-- Takes what was received, if anything. -/
def accept (r : Rig σ τ) (k : Nat) (line : Option (List UInt8)) :
    Except Fault (Option Message) × Rig σ τ :=
  match r.link? k with
  | none => (.ok none, r)
  | some l =>
    let (result, l, actions) := l.accept line
    (result.mapError .line, (r.setLink k l).perform actions)

def receive (r : Rig σ τ) (k : Nat) : Except Fault (Option Message) × Rig σ τ :=
  match (r.link? k).bind Link.channel? with
  | none => (.ok none, r)
  | some id =>
    let (line, r) := r.via fun o => Carrier.receive o id
    r.accept k line

def request (r : Rig σ τ) (k : Nat) (m : Message) : Except Fault (Option Message) × Rig σ τ :=
  match (r.link? k).bind Link.channel? with
  | none => (.ok none, r)
  | some id =>
    match m.lineBytes with
    | .error e =>
      if e.isMalformed then (.ok none, (r.report (.link (.notEncoded e))).change k fun l =>
        (l.countFailed, []))
      else (.error (.line e), r)
    | .ok bytes =>
      match r.via fun o => Carrier.exchange o id bytes with
      | (.error fault, r) => (.error fault, r)
      | (.ok line, r) =>
        (if line.isSome then r.change k fun l => (l.countSent, []) else r).accept k line

section
variable [Mul τ] [LT τ] [DecidableLT τ]

/-- Applies the outcome of an attempt to the link; the result is the edge to be told, if any. -/
def conclude (r : Rig σ τ) (k : Nat) (a : Attempt) (id : Nat) (up : Bool) : Option Edge × Rig σ τ :=
  match r.link? k with
  | none => (none, r)
  | some l =>
    let (l, actions, edge) := l.settle r.now a id up
    (edge, (r.setLink k l).perform actions)

/-- Makes a claimed attempt: builds a transport, connects it and applies the outcome.  A breakdown
ends the attempt and is raised. -/
def attempt (r : Rig σ τ) (k : Nat) (limits : TransportLimits τ) (sink : Sink) (a : Attempt)
    (window reaction : Rig σ τ → Rig σ τ) : Except Fault Unit × Rig σ τ :=
  match r.via fun o => Carrier.build o limits a.target with
  | (.error fault, r) => (.error fault, r.abort k)
  | (.ok id, r) =>
    let r := window (r.via fun o => ((), Carrier.approach o id)).2
    match r.via fun o => Carrier.connect o id with
    | (.error fault, r) => (.error fault, r.abort k)
    | (.ok up, r) =>
      match r.conclude k a id up with
      | (some e, r) => (.ok (), r.tell sink e reaction)
      | (none, r) => (.ok (), r)

variable [Zero τ] [Sub τ] [LE τ] [DecidableLE τ]

/-- The part of an update before an attempt is made or an edge is told: the peer is probed if that is
due, and the link is polled. -/
def look (r : Rig σ τ) (k : Nat) : Polled × Rig σ τ :=
  match r.link? k with
  | none => (.quiet, r)
  | some l =>
    let now := r.now
    let (alive, r) := match l.probe? now with
      | some id => r.via fun o => Carrier.probe o id
      | none => (true, r)
    let (l, actions, polled) := l.poll now alive
    (polled, (r.setLink k l).perform actions)

/-- Updates a link once.  `window` happens while a connection is being made, `reaction` while a
callback is told of an edge. -/
def update (r : Rig σ τ) (k : Nat) (window reaction : Rig σ τ → Rig σ τ) :
    Except Fault Unit × Rig σ τ :=
  match r.stations[k]? with
  | none => (.ok (), r)
  | some s =>
    match r.look k with
    | (.quiet, r) => (.ok (), r)
    | (.edge e, r) => (.ok (), r.tell s.sink e reaction)
    | (.attempt a, r) => r.attempt k s.limits s.sink a window reaction

end

end Rig

end PeripheralLink
