import PeripheralLink.Rig
import PeripheralLink.Settings
/-!
The bridge: one link at a time over a rig, with a sink that is given or made on the way.  Before it is
opened and after it is shut down every operation reports failure.
-/

namespace PeripheralLink

structure BridgeOptions (τ : Type) where
  enabled : Bool
  target : Target
  notifyUrl : Option String
  link : LinkOptions τ

def Settings.bridgeOptions (s : Settings) : BridgeOptions Float where
  enabled := s.enabled
  target := s.target
  notifyUrl := s.notifyUrl
  link := {
    limits := ⟨s.connectTimeout, s.ioTimeout, s.lineLimit⟩
    codec := ⟨s.lineLimit⟩
    healthInterval := 5.0
    statusInterval := 30.0
    backoff := .standard }

namespace Rig

variable {σ τ : Type}

def bridgeLink? (r : Rig σ τ) : Option (Link τ) := r.bridge.station.bind r.link?

def bridgeStats? (r : Rig σ τ) : Option (LinkStats τ) := r.bridgeLink?.map Link.stats

/-- The phase of the bridge's link; without a link it is disabled. -/
def bridgePhase (r : Rig σ τ) : Phase := (r.bridgeLink?.map Link.phase).getD .disabled

def bridgeConnected (r : Rig σ τ) : Bool := r.bridgePhase = .connected

variable [Carrier σ τ]

/-- Shuts the bridge down: its link is turned off, and a sink it made itself is closed. -/
def shutDownBridge (r : Rig σ τ) : Rig σ τ :=
  let r := match r.bridge.station with
    | some k => { r.shutDownLink k with bridge := { r.bridge with station := none } }
    | none => r
  let r := match r.bridge.ownsSink, r.bridge.sink with
    | true, some sink => { r.closeSink sink with bridge := { r.bridge with sink := none, ownsSink := false } }
    | _, _ => r
  r.report (.bridge .shutDown)

/-- The bridge's sink: the one it has, or one of its own making.  A backend is connected to here, and
a failure other than a refusal is raised. -/
def bridgeSink (r : Rig σ τ) (options : BridgeOptions τ) : Except Fault Sink × Rig σ τ :=
  match r.bridge.sink with
  | some sink => (.ok sink, r)
  | none =>
    let own (r : Rig σ τ) (sink : Sink) : Except Fault Sink × Rig σ τ :=
      (.ok sink, { r with bridge := { r.bridge with sink := some sink, ownsSink := true } })
    match options.notifyUrl with
    | none => own r .log
    | some url =>
      let (sink, r) := r.openBackend url false
      match r.connectSink sink with
      | (.error fault, r) => (.error fault, r)
      | (.ok _, r) => own r sink

/-- Opens the bridge with a new link; a link it had is shut down first. -/
def openBridge [Zero τ] (r : Rig σ τ) (options : BridgeOptions τ) (host port : Option Value) :
    Except Fault Unit × Rig σ τ :=
  let r := if r.bridge.station.isSome then r.shutDownBridge else r
  let target : Target := ⟨host.getD options.target.host, port.getD options.target.port⟩
  match r.bridgeSink options with
  | (.error fault, r) => (.error fault, r)
  | (.ok sink, r) =>
    let (k, r) := r.addLink options.link target sink
    let r := { r with bridge := { r.bridge with station := some k } }
    let r := r.report (.bridge (.initialized target))
    (.ok (), if options.enabled then r.setEnabled k true else r)

def setBridgeEnabled (r : Rig σ τ) (on : Bool) : Rig σ τ :=
  match r.bridge.station with
  | some k => r.setEnabled k on
  | none => r.report (.bridge .ignored)

def sendBridge (r : Rig σ τ) (m : Message) : Except Fault Bool × Rig σ τ :=
  match r.bridge.station with
  | some k => r.send k m
  | none => (.ok false, r)

def receiveBridge (r : Rig σ τ) : Except Fault (Option Message) × Rig σ τ :=
  match r.bridge.station with
  | some k => r.receive k
  | none => (.ok none, r)

def requestBridge (r : Rig σ τ) (m : Message) : Except Fault (Option Message) × Rig σ τ :=
  match r.bridge.station with
  | some k => r.request k m
  | none => (.ok none, r)

end Rig

end PeripheralLink
