import PeripheralLink.Wire.Tcp
import PeripheralLink.Carrier
/-!
TCP transports on one network, as an outside for links.
-/

namespace PeripheralLink

structure Lan (τ : Type) where
  net : Network τ
  transports : Array (Tcp τ) := #[]

namespace Lan

variable {τ : Type}

def build (lan : Lan τ) (limits : TransportLimits τ) (target : Target) : Nat × Lan τ :=
  (lan.transports.size, { lan with transports := lan.transports.push {
    target
    connectTimeout := limits.connectTimeout
    ioTimeout := limits.ioTimeout
    lineLimit := limits.lineLimit } })

/-- Runs an operation of a transport; a number that stands for none leaves all as it is. -/
def via {α : Type} (lan : Lan τ) (id : Nat) (default : α)
    (run : Tcp τ → Network τ → α × Tcp τ × Network τ) : α × Lan τ :=
  match lan.transports[id]? with
  | none => (default, lan)
  | some t =>
    let (result, t, net) := run t lan.net
    (result, ⟨net, lan.transports.setIfInBounds id t⟩)

variable [Zero τ] [Add τ] [Sub τ] [LE τ] [DecidableLE τ]

instance : Carrier (Lan τ) τ where
  now lan := lan.net.clock
  wait lan time := { lan with net := { lan.net with clock := lan.net.clock + time } }
  build lan limits target :=
    let (id, lan) := lan.build limits target
    (.ok id, lan)
  approach lan _ := lan
  connect lan id := lan.via id (.ok false) Tcp.connect
  disconnect lan id := (lan.via id () fun t net => ((), t.disconnect net)).2
  probe lan id := lan.via id false Tcp.probe
  send lan id bytes := lan.via id false fun t net => t.send net bytes
  receive lan id := lan.via id none Tcp.receive
  exchange lan id bytes :=
    let (line, lan) := lan.via id none fun t net => t.exchange net bytes
    (.ok line, lan)
  drain lan :=
    (lan.net.journal.toList.map .wire, { lan with net := { lan.net with journal := #[] } })

end Lan

end PeripheralLink
