import PeripheralLink.Carrier
import PeripheralLink.Companion.Reply
/-!
A test bench: companions that are started and stopped in this process, transports to whichever runs,
and the connections that the process is said to have.
-/

namespace PeripheralLink

structure CompanionPlan where
  startError : Option String := none
  stopError : Option String := none
  unreachable : Bool := false
  silent : Bool := false
  undying : Bool := false
  answer : Option (List UInt8) := none
  exchangeFault : Option String := none

structure Bench where
  clock : Float
  /-- Companions to be made, in order; after them every companion is a plain one. -/
  coming : List CompanionPlan := []
  companions : Array CompanionPlan := #[]
  running : Bool := false
  plan : CompanionPlan := {}
  up : Array Bool := #[]
  listings : List (List Value) := []
  olderListing : Bool := false
  journal : Array (OutsideEntry Float) := #[]

namespace Bench

def record (b : Bench) (call : BenchCall) : Bench := { b with journal := b.journal.push (.bench call) }

/-- Enters a call on a transport. -/
def recordTransport (b : Bench) (call : TransportCall) : Bench :=
  { b with journal := b.journal.push (.transport call) }

/-- Makes the next companion. -/
def make (b : Bench) : Nat × Bench :=
  (b.companions.size,
    { b with coming := b.coming.tail, companions := b.companions.push (b.coming.headD {}) })

def start (b : Bench) (companion : Nat) (target : Target) : Except Fault Unit × Bench :=
  let b := b.record (.start target)
  let plan := b.companions[companion]?.getD {}
  match plan.startError with
  | some text => (.error (.system text), b)
  | none => (.ok (), { b with running := true, plan })

/-- Stops a companion. -/
def stop (b : Bench) (companion : Nat) : Except Fault Unit × Bench :=
  let b := b.record .stop
  let plan := b.companions[companion]?.getD {}
  match plan.stopError with
  | some text =>
    (.error (.system text),
      { b with companions := b.companions.setIfInBounds companion { plan with stopError := none } })
  | none => (.ok (), if plan.undying then b else { b with running := false })

/-- Lists the connections of the process: their remote ports. -/
def listConnections (b : Bench) : List Value × Bench :=
  let b := b.record (.listConnections (if b.olderListing then "connections" else "net_connections") "tcp")
  (b.listings.headD [], { b with listings := b.listings.tail })

/-- A transport came up. -/
def isUp (b : Bench) (id : Nat) : Bool := b.up.getD id false

/-- The line that a companion answers with. -/
def answerTo (line : List UInt8) : Option (List UInt8) :=
  match ({} : Codec).decode (.bytes line) with
  | .message m => m.reply.toOption.bind fun reply => reply.lineBytes.toOption
  | _ => none

instance : Carrier Bench Float where
  now b := b.clock
  wait b time := { b with clock := b.clock + time }
  build b _ _ := (.ok b.up.size, { b with up := b.up.push false })
  approach b _ := b
  connect b id :=
    let up := b.running && !b.plan.unreachable
    (.ok up, { b.record (.connect id up) with up := b.up.setIfInBounds id up })
  disconnect b id := { b.recordTransport (.disconnect id) with up := b.up.setIfInBounds id false }
  probe b id := (b.isUp id && b.running, b.recordTransport (.probe id))
  send b id _ := (b.isUp id && b.running, b)
  receive b _ := (none, b)
  exchange b id line :=
    let b := b.record (.exchange id line)
    match b.plan.exchangeFault with
    | some text => (.error (.breakdown text), b)
    | none =>
      if b.isUp id && b.running && !b.plan.silent then
        (.ok (match b.plan.answer with | some bytes => some bytes | none => answerTo line), b)
      else (.ok none, b)
  drain b := (b.journal.toList, { b with journal := #[] })

end Bench

end PeripheralLink
