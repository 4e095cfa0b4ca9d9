import PeripheralLink.Companion.Reply
import PeripheralLink.Wire.Network
import PeripheralLink.Wire.Segment
/-!
The companion: a line server that takes one link after the other, reads its lines and answers each
message.  What links send is given as a schedule; a stop may come while it waits for a link's bytes.
-/

namespace PeripheralLink

/-- What the companion meets when it waits for a link's bytes. -/
inductive Chunk
  /-- Bytes; none at all means that the link has closed. -/
  | data (bytes : List UInt8)
  | timeout
  | failure
  /-- The companion is stopped meanwhile, and then the bytes arrive or receiving fails. -/
  | stop (bytes : Option (List UInt8))

/-- Bytes that one look at a link can bring. -/
def pieceSize : Nat := 4096

/-- Bytes in pieces of which each can be taken at once. -/
def pieces (bytes : List UInt8) : List (List UInt8) :=
  if bytes.length ≤ pieceSize then [bytes]
  else (List.range ((bytes.length + pieceSize - 1) / pieceSize)).map fun n =>
    (bytes.drop (n * pieceSize)).take pieceSize

/-- A chunk as the looks that it takes. -/
def Chunk.looks : Chunk → List Chunk
  | data bytes => (pieces bytes).map .data
  | stop (some bytes) =>
    match pieces bytes with
    | first :: rest => .stop (some first) :: rest.map .data
    | [] => []
  | chunk => [chunk]

inductive Delivery
  | whole
  /-- Sending fails after so many characters; at least the last one stays behind. -/
  | cut (sent : Nat) (reason : String)

/-- A link as the companion meets it. -/
structure Visitor where
  host : Value
  port : Value
  chunks : List Chunk
  deliveries : List Delivery := []
  sendLimit : Option Nat := none

inductive Admission
  | visitor (v : Visitor)
  | timeout
  | failure

inductive CompanionNotice
  | listening (target : Target)
  | stopped (handled : Nat)
  | linkConnected (peer : Target)
  | linkDisconnected
  | lineDropped
  | request (m : Message)
  | replyFailed (reason : String)
  | frameDropped (reason : FrameError)
  | wire (notice : TransportNotice)

def CompanionNotice.entry : CompanionNotice → LogEntry
  | listening target => ⟨.info, .companion, "Companion simulator listening on " ++ target.inline⟩
  | stopped handled =>
    ⟨.info, .companion, "Companion simulator stopped (requests=" ++ Number.integer handled ++ ")"⟩
  | linkConnected peer => ⟨.info, .companion, "Link connected from " ++ peer.inline⟩
  | linkDisconnected => ⟨.info, .companion, "Link disconnected"⟩
  | lineDropped => ⟨.warning, .companion, "Oversized line from link, dropping buffer"⟩
  | request m => ⟨.debug, .companion, "Request: " ++ m.shown⟩
  | replyFailed reason => ⟨.warning, .companion, "Failed to send reply: " ++ reason⟩
  | frameDropped reason => ⟨.warning, .framing, "Dropping malformed frame: " ++ reason.message⟩
  | wire notice => notice.entry

/-- An entry of the companion's journal.  The listener is socket zero, and links count from one. -/
inductive CompanionEntry (τ : Type)
  | socket (call : SocketCall τ)
  | reply (visitor : Nat) (line : List Char)
  | report (notice : CompanionNotice)

structure Companion (τ : Type) where
  target : Target
  replies : Bool := true
  codec : Codec := {}
  running : Bool := false
  /-- The listening socket; its failure to close goes unnoticed. -/
  listener : Option Nat := none
  visitors : List Nat := []
  handled : Nat := 0
  journal : Array (CompanionEntry τ) := #[]

namespace Companion

variable {τ : Type}

def record (c : Companion τ) (call : SocketCall τ) : Companion τ :=
  { c with journal := c.journal.push (.socket call) }

def report (c : Companion τ) (notice : CompanionNotice) : Companion τ :=
  { c with journal := c.journal.push (.report notice) }

/-- Closes the listener and every link. -/
def stop (c : Companion τ) : Companion τ :=
  let c := { c with running := false }
  let c := match c.listener with
    | some id => { c.record (.close id) with listener := none }
    | none => c
  let c := { c.visitors.foldl (fun c id => c.record (.close id)) c with visitors := [] }
  c.report (.stopped c.handled)

/-- What becomes of the replies to a link: the next of them in order, and how many can be sent after these. -/
structure Outbox where
  visitor : Nat
  deliveries : List Delivery := []
  sent : Nat := 0
  limit : Option Nat

/-- What becomes of the next reply. -/
def Outbox.next (out : Outbox) : Delivery × Outbox :=
  match out.deliveries with
  | delivery :: deliveries => (delivery, { out with deliveries })
  | [] =>
    if out.limit.any (· ≤ out.sent) then (.cut 0 "broken pipe", out)
    else (.whole, { out with sent := out.sent + 1 })

def posted (c : Companion τ) (visitor : Nat) (line : List Char) : Companion τ :=
  { c with journal := c.journal.push (.reply visitor line) }

def send (c : Companion τ) (out : Outbox) (line : List Char) : Companion τ × Outbox :=
  match out.next with
  | (.whole, out) => (c.posted out.visitor line, out)
  | (.cut sent reason, out) =>
    let piece := line.dropLast.take sent
    let c := if piece.isEmpty then c else c.posted out.visitor piece
    (c.report (.replyFailed reason), out)

def handle (c : Companion τ) (out : Outbox) (line : List UInt8) :
    Except Fault Unit × Companion τ × Outbox :=
  match c.codec.decode (.bytes line) with
  | .failed reason => (.error (.line reason), c, out)
  | .dropped reason => (.ok (), c.report (.frameDropped reason), out)
  | .message m =>
    let c := { c with handled := c.handled + 1 }.report (.request m)
    match c.replies, m.reply.toOption.bind fun r => r.line.toOption with
    | true, some line => (.ok (), c.send out line)
    | _, _ => (.ok (), c, out)

/-- Handles lines in order, up to the first whose fault cannot be worded. -/
def handleAll (c : Companion τ) (out : Outbox) :
    List (List UInt8) → Except Fault Unit × Companion τ × Outbox
  | [] => (.ok (), c, out)
  | line :: rest =>
    match c.handle out line with
    | (.ok (), c, out) => c.handleAll out rest
    | failed => failed

/-- Takes bytes: handles the lines that are complete, and keeps the rest unless it is too long. -/
def take (c : Companion τ) (out : Outbox) (buffer bytes : List UInt8) :
    Except Fault Unit × Companion τ × Outbox × List UInt8 :=
  let (complete, rest) := segments (buffer ++ bytes)
  match c.handleAll out complete with
  | (.error fault, c, out) => (.error fault, c, out, rest)
  | (.ok (), c, out) =>
    if c.codec.lineLimit.value < rest.length then (.ok (), c.report .lineDropped, out, [])
    else (.ok (), c, out, rest)

def finish (c : Companion τ) (visitor : Nat) : Companion τ :=
  ({ c with visitors := c.visitors.erase visitor }.record (.close visitor)).report .linkDisconnected

/-- Serves a link until it closes, receiving fails or the companion is stopped. -/
def serve (c : Companion τ) (out : Outbox) (buffer : List UInt8) :
    List Chunk → Except Fault Unit × Companion τ
  | [] => (.ok (), c.finish out.visitor)
  | chunk :: rest =>
    let took (c : Companion τ) (bytes : List UInt8) : Except Fault Unit × Companion τ :=
      if bytes.isEmpty then (.ok (), c.finish out.visitor)
      else
        match c.take out buffer bytes with
        | (.error fault, c, _, _) => (.error fault, c)
        | (.ok (), c, out, buffer) => c.serve out buffer rest
    if !c.running then (.ok (), c.finish out.visitor)
    else
      match chunk with
      | .data bytes => took c bytes
      | .timeout => c.serve out buffer rest
      | .failure => (.ok (), c.finish out.visitor)
      | .stop none => (.ok (), c.stop.finish out.visitor)
      | .stop (some bytes) => took c.stop bytes

/-- Seconds that a call on a socket may take. -/
def patience : Float := 0.5

/-- Takes links one after the other, counting from `visitor`. -/
def welcome (c : Companion Float) (visitor : Nat) :
    List Admission → Except Fault Unit × Companion Float
  | [] => (.ok (), c)
  | admission :: rest =>
    if !c.running then (.ok (), c)
    else
      match admission with
      | .timeout => c.welcome visitor rest
      | .failure => (.ok (), c)
      | .visitor v =>
        let c := (c.report (.linkConnected ⟨v.host, v.port⟩)).record (.setTimeout visitor patience)
        let c := { c with visitors := c.visitors ++ [visitor] }
        let out : Outbox := { visitor, deliveries := v.deliveries, limit := v.sendLimit }
        match c.serve out [] (v.chunks.flatMap Chunk.looks) with
        | (.ok (), c) => c.welcome (visitor + 1) rest
        | failed => failed

def ofWire : WireEntry Float → CompanionEntry Float
  | .call call => .socket call
  | .notice notice => .report (.wire notice)

/-- Starts listening and takes links. -/
def start (c : Companion Float) (socket : Socket Float) (admissions : List Admission) :
    Except Fault Unit × Companion Float :=
  let (result, net) :=
    ({ clock := 0.0, coming := [socket] } : Network Float).listenOn c.target (.int 1) (some patience)
  let c := { c with journal := c.journal ++ net.journal.map ofWire }
  match result with
  | .error fault => (.error fault, c)
  | .ok id =>
    let c := { c with
      listener := some id
      target := { c.target with port := socket.boundPort }
      running := true }
    match c.welcome 1 admissions with
    | (.ok (), c) => (.ok (), c.report (.listening c.target))
    | failed => failed

end Companion

end PeripheralLink
