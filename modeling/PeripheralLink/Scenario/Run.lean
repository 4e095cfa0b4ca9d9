import PeripheralLink.Scenario.Outside
import PeripheralLink.Bridge
/-!
Running a scenario: each step gives a record of what it answers, of the link after it, and of the
journal meanwhile.  Steps that were left for a moment within a call are recorded inside the record of
the step that made the call.

A scenario of a link is a scenario of a bridge that has that link from the start.
-/

namespace PeripheralLink

namespace Scenario

variable {τ : Type} [Zero τ] [Add τ] [Sub τ] [Mul τ] [LE τ] [DecidableLE τ] [LT τ] [DecidableLT τ]

abbrev Field (τ : Type) := Rig (Outside τ) τ

def view (r : Field τ) : Option (LinkView τ) :=
  r.bridgeLink?.map fun l => ⟨l.stats, r.now - l.enteredAt⟩

/-- Runs steps within a call, each with a journal of its own. -/
def within (run : Step τ → Field τ → Answer τ × Field τ) (steps : List (Step τ)) (r : Field τ) :
    Field τ :=
  let (r', records) := steps.foldl
    (fun (r, records) step =>
      let (answer, r) := run step { r with journal := #[] }
      (r, records ++ [StepRecord.mk answer (view r) r.journal.toList]))
    (r, [])
  { r' with journal := r.journal.push (.during records) }

/-- Runs the steps left for a callback. -/
def reaction (reenter : List (Step τ) → Field τ → Field τ) (r : Field τ) : Field τ :=
  if r.outside.onNotify.isEmpty then r
  else reenter r.outside.onNotify { r with outside := { r.outside with onNotify := [] } }

/-- Runs the steps left for a connect; only scripted transports have such a moment. -/
def window (reenter : List (Step τ) → Field τ → Field τ) (r : Field τ) : Field τ :=
  match r.outside.medium with
  | .network _ => r
  | .scripted _ =>
    if r.outside.onConnect.isEmpty then r
    else reenter r.outside.onConnect { r with outside := { r.outside with onConnect := [] } }

def update (reenter : List (Step τ) → Field τ → Field τ) (r : Field τ) : Except Fault Unit × Field τ :=
  match r.bridge.station with
  | none => (.ok (), r)
  | some k => r.update k (window reenter) (reaction reenter)

def sink (r : Field τ) : Sink := r.bridge.sink.getD .log

def answer {α : Type} (show? : α → Answer τ) : Except Fault α → Answer τ
  | .ok a => show? a
  | .error f => .fault f

/-- Ticks in a row, up to the first that fails: those that brought another phase. -/
def ticks (reenter : List (Step τ) → Field τ → Field τ) (time : τ) (index : Nat) :
    Nat → Field τ → List (Nat × Phase) → Except Fault (List (Nat × Phase)) × Field τ
  | 0, r, changes => (.ok changes, r)
  | count + 1, r, changes =>
    match update reenter (r.wait time) with
    | (.error f, r) => (.error f, r)
    | (.ok (), next) =>
      ticks reenter time (index + 1) count next
        (if next.bridgePhase = r.bridgePhase then changes else changes ++ [(index, next.bridgePhase)])

def onLink (r : Field τ) (call : Nat → Field τ) : Field τ :=
  match r.bridge.station with | some k => call k | none => r

def behave (r : Field τ) (b : Behaviour) (onConnect onNotify : Option (List (Step τ))) : Field τ :=
  { r with
    callbackFault := b.callbackFault.getD r.callbackFault
    outside := {
      medium := match r.outside.medium with
        | .scripted s => .scripted (s.behave b)
        | medium => medium
      onConnect := onConnect.getD r.outside.onConnect
      onNotify := onNotify.getD r.outside.onNotify } }

def onNetwork (r : Field τ) (change : Network τ → Network τ) : Field τ :=
  match r.outside.medium with
  | .network lan =>
    { r with outside := { r.outside with medium := .network { lan with net := change lan.net } } }
  | .scripted _ => r

/-- Adds to what arrives at a socket; scripted transports have no sockets. -/
def feed (r : Field τ) (socket : Int) (arrivals : List (Arrival τ)) : Answer τ × Field τ :=
  match r.outside.medium with
  | .scripted _ => (.fault .noSuchSocket, r)
  | .network lan =>
    match lan.net.feed socket arrivals with
    | .ok net => (.nothing, onNetwork r fun _ => net)
    | .error f => (.fault f, r)

/-- Changes how the newest client behaves. -/
def behaveClient (r : Field τ) (b : ClientBehaviour) : Field τ :=
  r.setClient (r.clients.size - 1) fun c => {
    connected := b.connected.getD c.connected
    connectFault := b.connectFault.getD c.connectFault
    emitFault := b.emitFault.getD c.emitFault }

/-- Takes a step; `reenter` runs the steps left for a moment within it. -/
def stepWith (options : BridgeOptions τ) (reenter : List (Step τ) → Field τ → Field τ)
    (step : Step τ) (r : Field τ) : Answer τ × Field τ :=
  match step with
  | .setEnabled on => (.nothing, r.setBridgeEnabled on)
  | .configure target => (.nothing, onLink r fun k => r.configure k target)
  | .retarget target =>
    (.nothing, onLink r fun k => r.change k fun l => ({ l with target }, []))
  | .update =>
    let (result, r) := update reenter r
    (answer (fun _ => .nothing) result, r)
  | .tick time =>
    let (result, r) := update reenter (r.wait time)
    (answer (fun _ => .phase r.bridgePhase) result, r)
  | .ticks time count =>
    let (result, r) := ticks reenter time 0 count r []
    (answer .changes result, r)
  | .advance time => (.nothing, r.wait time)
  | .send m =>
    let (result, r) := r.sendBridge m
    (answer .flag result, r)
  | .receive =>
    let (result, r) := r.receiveBridge
    (answer .reply result, r)
  | .request m =>
    let (result, r) := r.requestBridge m
    (answer .reply result, r)
  | .stats => (.stats r.bridgeStats?, r)
  | .phase => (.phase r.bridgePhase, r)
  | .isConnected => (.flag r.bridgeConnected, r)
  | .isEnabled => (.flag (r.bridgeLink?.any Link.enabled), r)
  | .shutDown => (.nothing, onLink r r.shutDownLink)
  | .enter => (.flag true, r)
  | .leave => (.flag false, onLink r r.shutDownLink)
  | .openBridge host port =>
    let (result, r) := r.openBridge options host port
    (answer (fun _ => .nothing) result, r)
  | .closeBridge => (.nothing, r.shutDownBridge)
  | .tell e => (.nothing, r.tell (sink r) e (reaction reenter))
  | .notify n =>
    let (result, r) := r.deliver (sink r) n (reaction reenter)
    (answer (fun _ => .nothing) result, r)
  | .connectSink =>
    let (result, r) := r.connectSink (sink r)
    (answer .flag result, r)
  | .closeSink => (.nothing, r.closeSink (sink r))
  | .sockets coming => (.nothing, onNetwork r fun n => { n with coming := n.coming ++ coming })
  | .feed socket arrivals => feed r socket arrivals
  | .client change => (.nothing, behaveClient r change)
  | .behave change onConnect onNotify => (.nothing, behave r change onConnect onNotify)
  | .refused e => (.refused e, r)
  | .impossible f => (.fault f, r)

/-- Runs steps within a call, down to a depth. -/
def reenter (options : BridgeOptions τ) : Nat → List (Step τ) → Field τ → Field τ
  | 0, _, r => r
  | depth + 1, steps, r => within (stepWith options (reenter options depth)) steps r

/-- Runs a scenario.  Every list of steps left for later runs at most once, so that their number
bounds the depth. -/
def run (options : BridgeOptions τ) (pending : Nat) (steps : List (Step τ)) (r : Field τ) :
    List (StepRecord τ) :=
  let depth := pending + deferredSteps steps
  let (_, records) := steps.foldl
    (fun ((r : Field τ), records) step =>
      let (answer, r) := stepWith options (reenter options depth) step { r with journal := #[] }
      (r, records.push (StepRecord.mk answer (view r) r.journal.toList)))
    (r, (#[] : Array (StepRecord τ)))
  records.toList

def start (medium : Medium τ) (behaviour : Behaviour) (onConnect onNotify : Option (List (Step τ)))
    (client : Client) : Field τ :=
  behave { outside := { medium }, freshClient := client } behaviour onConnect onNotify

/-- A scenario of a sink: the record of making it comes first. -/
def runSink (options : BridgeOptions τ) (sink : Field τ → Sink × Field τ) (pending : Nat)
    (steps : List (Step τ)) (r : Field τ) : List (StepRecord τ) :=
  let (sink, r) := sink r
  let r := { r with bridge := { r.bridge with sink := some sink } }
  .mk .nothing none r.journal.toList :: run options pending steps r

def runLink (options : LinkOptions τ) (target : Target) (sink : Sink) (pending : Nat)
    (steps : List (Step τ)) (r : Field τ) : List (StepRecord τ) :=
  let (k, r) := r.addLink options target sink
  let r := { r with bridge := { r.bridge with station := some k } }
  .mk .nothing (view r) r.journal.toList ::
    run { enabled := false, target, notifyUrl := none, link := options } pending steps r

end Scenario

end PeripheralLink
