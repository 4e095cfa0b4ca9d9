import PeripheralLink.Link.Notice
import PeripheralLink.Timing.Backoff
import PeripheralLink.Timing.Interval
/-!
The link: a polled state machine that owns at most one transport.  Every operation takes the time as
an argument and returns what is to be done to the outside, in order.

An attempt to connect is claimed by `Link.poll` and ends with `Link.settle` or `Link.abort`; other
operations may come between.  Turning the link off or changing its target advances the generation,
and an attempt of an older generation comes to nothing.
-/

namespace PeripheralLink

structure Link (τ : Type) where
  target : Target
  codec : Codec := {}
  enabled : Bool := false
  phase : Phase := .disabled
  enteredAt : τ
  transport : Option Nat := none
  backoff : Backoff τ
  health : IntervalClock τ
  status : IntervalClock τ
  /-- Failed attempts since the last success. -/
  failures : Nat := 0
  attempting : Bool := false
  generation : Nat := 0
  counters : Counters := {}

inductive LinkAction (τ : Type)
  | release (transport : Nat)
  | report (notice : LinkNotice τ)

/-- A claimed attempt: what the link was when it was claimed. -/
structure Attempt where
  generation : Nat
  origin : Phase
  target : Target

/-- What a poll comes to. -/
inductive Polled
  | quiet
  | attempt (a : Attempt)
  | edge (e : Edge)

namespace Link

variable {τ : Type}

/-- Enters a phase.  The health interval begins with the connected phase. -/
def enter (l : Link τ) (now : τ) (next : Phase) : Link τ × List (LinkAction τ) :=
  ({ l with
      phase := next
      enteredAt := now
      health := if next = .connected then l.health.mark now else l.health },
    [.report (if l.phase = next then .reentered next l.backoff.delay else .moved l.phase next)])

/-- Gives up the transport, if any. -/
def giveUp (l : Link τ) : Link τ × List (LinkAction τ) :=
  ({ l with transport := none }, l.transport.toList.map .release)

/-- Gives up the transport and enters a phase. -/
def leave (l : Link τ) (now : τ) (next : Phase) : Link τ × List (LinkAction τ) :=
  let (l, released) := l.giveUp
  let (l, entered) := l.enter now next
  (l, released ++ entered)

/-- Changes the target.  With one that cannot be connected to, the link stays disabled until another
is set. -/
def configure (l : Link τ) (now : τ) (target : Target) : Link τ × List (LinkAction τ) :=
  let changed := { l with
    target
    generation := if target.same l.target then l.generation else l.generation + 1 }
  if target.isValid then
    if l.enabled ∧ l.phase = .disabled then
      let (l, actions) := changed.enter now .disconnected
      (l, .report (.targetSet target) :: actions)
    else (changed, [.report (.targetSet target)])
  else if l.phase = .disabled then (changed, [.report (.targetRefused target)])
  else
    let (l, actions) := changed.leave now .disabled
    (l, .report (.targetRefused target) :: actions)

def setEnabled (l : Link τ) (now : τ) (on : Bool) : Link τ × List (LinkAction τ) :=
  let changed := { l with enabled := on }
  if on then
    if l.phase = .disabled then
      if l.target.isValid then changed.enter now .disconnected
      else (changed, [.report (.enableRefused l.target)])
    else (changed, [])
  else if l.phase = .disabled then (changed, [])
  else { changed with generation := l.generation + 1 }.leave now .disabled

def shutDown (l : Link τ) (now : τ) : Link τ × List (LinkAction τ) :=
  let (l, actions) := l.setEnabled now false
  (l, actions ++ [.report (.shutDown l.counters)])

def claim (l : Link τ) : Link τ × List (LinkAction τ) × Polled :=
  let (l, released) := l.giveUp
  ({ l with
      counters := { l.counters with attempts := l.counters.attempts + 1 }
      attempting := true },
    released, .attempt ⟨l.generation, l.phase, l.target⟩)

def stats (l : Link τ) : LinkStats τ := ⟨l.phase, l.enabled, l.target, l.counters, l.backoff.delay⟩

section
variable [Sub τ] [LE τ] [DecidableLE τ]

/-- The transport whose peer is to be probed at the next poll. -/
def probe? (l : Link τ) (now : τ) : Option Nat :=
  if !l.attempting && l.phase = .connected && l.enabled && l.health.isDue now then l.transport
  else none

/-- One step of the phase; `alive` is the outcome of the probe, if one was due. -/
def advance (l : Link τ) (now : τ) (alive : Bool) : Link τ × List (LinkAction τ) × Polled :=
  let move (change : Link τ × List (LinkAction τ)) : Link τ × List (LinkAction τ) × Polled :=
    (change.1, change.2, .quiet)
  match l.phase with
  | .disabled =>
    if l.enabled && l.target.isValid then move (l.enter now .disconnected) else (l, [], .quiet)
  | .disconnected =>
    move (if l.enabled then l.enter now .connecting else l.leave now .disabled)
  | .connecting => if l.enabled then l.claim else move (l.leave now .disabled)
  | .connected =>
    if !l.enabled then move (l.leave now .disabled)
    else if l.health.isDue now then
      let marked := { l with health := l.health.mark now }
      if alive && l.transport.isSome then (marked, [], .quiet)
      else
        let (l, actions) := marked.leave now .reconnecting
        (l, .report .connectionLost :: actions, .edge .disconnected)
    else (l, [], .quiet)
  | .reconnecting =>
    if !l.enabled then move (l.leave now .disabled)
    else if l.backoff.delay ≤ now - l.enteredAt then l.claim
    else (l, [], .quiet)

variable [Zero τ] [LT τ] [DecidableLT τ]

/-- The status line, once in an interval; an interval of zero or less turns it off. -/
def reportStatus (l : Link τ) (now : τ) : Link τ × List (LinkAction τ) :=
  if l.status.interval ≤ 0 ∨ now - l.status.begunAt < l.status.interval then (l, [])
  else ({ l with status := l.status.mark now }, [.report (.status l.stats)])

/-- Advances the link by at most one change of phase.  While an attempt is in flight nothing
happens. -/
def poll (l : Link τ) (now : τ) (alive : Bool) : Link τ × List (LinkAction τ) × Polled :=
  if l.attempting then (l, [], .quiet)
  else
    let (l, actions, result) := l.advance now alive
    let (l, reported) := l.reportStatus now
    (l, actions ++ reported, result)

end

/-- Applies the outcome of an attempt with a transport that connected, or did not. -/
def settle [Mul τ] [LT τ] [DecidableLT τ] (l : Link τ) (now : τ) (a : Attempt) (transport : Nat)
    (up : Bool) : Link τ × List (LinkAction τ) × Option Edge :=
  let l := { l with attempting := false }
  if a.generation ≠ l.generation then (l, [.release transport, .report (.stale a.target)], none)
  else if up then
    let (l, actions) :=
      { l with transport := some transport, failures := 0, backoff := l.backoff.reset }.enter now
        .connected
    if a.origin = .reconnecting then
      ({ l with counters := { l.counters with reconnects := l.counters.reconnects + 1 } }, actions,
        some .reconnected)
    else (l, actions, some .connected)
  else
    let l := { l with failures := l.failures + 1 }
    let failed : LinkNotice τ :=
      if l.failures = 1 then .unreachable a.target else .attemptFailed l.failures a.target
    let (l, retry) : Link τ × List (LinkAction τ) :=
      if a.origin = .reconnecting then
        let l := { l with backoff := l.backoff.advance }
        (l, [.report (.retryIn l.backoff.delay)])
      else (l, [])
    let (l, entered) := l.enter now .reconnecting
    (l, [.release transport, .report failed] ++ retry ++ entered, none)

def abort (l : Link τ) : Link τ := { l with attempting := false }

/-- The transport that messages go through. -/
def channel? (l : Link τ) : Option Nat := if l.phase = .connected then l.transport else none

def countSent (l : Link τ) : Link τ :=
  { l with counters := { l.counters with sent := l.counters.sent + 1 } }

def countReceived (l : Link τ) : Link τ :=
  { l with counters := { l.counters with received := l.counters.received + 1 } }

def countFailed (l : Link τ) : Link τ :=
  { l with counters := { l.counters with failed := l.counters.failed + 1 } }

/-- Counts what sending a message came to. -/
def sent (l : Link τ) (m : Message) (delivered : Bool) : Link τ × List (LinkAction τ) :=
  if delivered then (l.countSent, []) else (l.countFailed, [.report (.notSent m)])

/-- Reads what was received, if anything, and counts what that came to. -/
def accept (l : Link τ) (line : Option (List UInt8)) :
    Except FrameError (Option Message) × Link τ × List (LinkAction τ) :=
  match line with
  | none => (.ok none, l.countFailed, [])
  | some bytes =>
    match l.codec.decode (.bytes bytes) with
    | .message m => (.ok (some m), l.countReceived, [])
    | .dropped reason => (.ok none, l.countFailed, [.report (.frameDropped reason)])
    | .failed reason => (.error reason, l, [])

end Link

end PeripheralLink
