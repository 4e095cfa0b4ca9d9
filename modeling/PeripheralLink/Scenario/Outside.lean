import PeripheralLink.Scenario.Step
import PeripheralLink.Wire.Lan
/-!
The outside of a scenario: scripted transports, whose answers follow from a few switches, or TCP
transports on a network.
-/

namespace PeripheralLink

structure Scripted (τ : Type) where
  clock : τ
  reachable : Bool := true
  alive : Bool := true
  passable : Bool := true
  connectFault : Option String := none
  buildFault : Option String := none
  replies : List (List UInt8) := []
  up : Array Bool := #[]
  journal : Array TransportCall := #[]

namespace Scripted

variable {τ : Type}

def record (s : Scripted τ) (call : TransportCall) : Scripted τ :=
  { s with journal := s.journal.push call }

def isUp (s : Scripted τ) (id : Nat) : Bool := s.up.getD id false

/-- Takes up new behaviour. -/
def behave (s : Scripted τ) (b : Behaviour) : Scripted τ :=
  { s with
    reachable := b.reachable.getD s.reachable
    alive := b.alive.getD s.alive
    passable := b.passable.getD s.passable
    connectFault := b.connectFault.getD s.connectFault
    buildFault := b.buildFault.getD s.buildFault
    replies := s.replies ++ b.replies }

/-- The next reply, if a transport lets anything through. -/
def takeReply (s : Scripted τ) (id : Nat) : Option (List UInt8) × Scripted τ :=
  match s.replies with
  | line :: rest => if s.isUp id && s.passable then (some line, { s with replies := rest }) else (none, s)
  | [] => (none, s)

instance [Add τ] : Carrier (Scripted τ) τ where
  now s := s.clock
  wait s time := { s with clock := s.clock + time }
  build s _ target :=
    let s := s.record (.build target)
    match s.buildFault with
    | some text => (.error (.breakdown text), s)
    | none => (.ok s.up.size, { s with up := s.up.push false })
  approach s id := s.record (.connect id)
  connect s id :=
    match s.connectFault with
    | some text => (.error (.breakdown text), s)
    | none => (.ok s.reachable, { s with up := s.up.setIfInBounds id s.reachable })
  disconnect s id := { s.record (.disconnect id) with up := s.up.setIfInBounds id false }
  probe s id := (s.isUp id && s.alive, s.record (.probe id))
  send s id bytes := (s.isUp id && s.passable, s.record (.send id bytes))
  receive s id := (s.record (.receive id)).takeReply id
  exchange s id bytes :=
    let (line, s) := (s.record (.exchange id bytes)).takeReply id
    (.ok line, s)
  drain s := (s.journal.toList.map .transport, { s with journal := #[] })

end Scripted

/-- Transports of either kind. -/
inductive Medium (τ : Type)
  | scripted (s : Scripted τ)
  | network (lan : Lan τ)

/-- Transports, and the steps to be taken within the next connect of a scripted one and within the
next callback. -/
structure Outside (τ : Type) where
  medium : Medium τ
  onConnect : List (Step τ) := []
  onNotify : List (Step τ) := []

namespace Outside

variable {τ : Type} [Zero τ] [Add τ] [Sub τ] [LE τ] [DecidableLE τ]

/-- Runs a call on either kind of transports. -/
def via {α : Type} (o : Outside τ) (scripted : Scripted τ → α × Scripted τ)
    (network : Lan τ → α × Lan τ) : α × Outside τ :=
  match o.medium with
  | .scripted s =>
    let (result, s) := scripted s
    (result, { o with medium := .scripted s })
  | .network lan =>
    let (result, lan) := network lan
    (result, { o with medium := .network lan })

instance : Carrier (Outside τ) τ where
  now o := match o.medium with | .scripted s => Carrier.now s | .network lan => Carrier.now lan
  wait o time := (o.via (fun s => ((), Carrier.wait s time)) fun lan => ((), Carrier.wait lan time)).2
  build o limits target :=
    o.via (Carrier.build · limits target) (Carrier.build · limits target)
  approach o id :=
    (o.via (fun s => ((), Carrier.approach s id)) fun lan => ((), Carrier.approach lan id)).2
  connect o id := o.via (Carrier.connect · id) (Carrier.connect · id)
  disconnect o id :=
    (o.via (fun s => ((), Carrier.disconnect s id)) fun lan => ((), Carrier.disconnect lan id)).2
  probe o id := o.via (Carrier.probe · id) (Carrier.probe · id)
  send o id bytes := o.via (Carrier.send · id bytes) (Carrier.send · id bytes)
  receive o id := o.via (Carrier.receive · id) (Carrier.receive · id)
  exchange o id bytes := o.via (Carrier.exchange · id bytes) (Carrier.exchange · id bytes)
  drain o := o.via Carrier.drain Carrier.drain

end Outside

end PeripheralLink
