import PeripheralLink.Wire.LineBuffer
import PeripheralLink.Fault
/-!
A socket whose peer follows a schedule: what arrives and what is taken, in order, with pauses,
interruptions and failures between.  `Socket.readLine` and `Socket.writeAll` are the two
non-blocking loops that work against a deadline.
-/

namespace PeripheralLink

/-- What happens next on the receiving side. -/
inductive Arrival (τ : Type)
  | data (bytes : List UInt8)
  | pause (time : τ)
  | closed
  | failure (text : String)
  | interruption
  | waitFailure

/-- What happens next on the sending side. -/
inductive Uptake (τ : Type)
  /-- At most so many bytes are taken; none at all is how a closed peer shows. -/
  | accept (count : Nat)
  | pause (time : τ)
  | stuck
  | failure (text : String)
  | interruption
  | waitFailure

inductive SocketOption
  | reuseAddress
  | noDelay
  | keepAlive
  | keepIdle
  | keepInterval
  | keepCount
deriving DecidableEq

def SocketOption.name : SocketOption → String
  | reuseAddress => "SO_REUSEADDR"
  | noDelay => "TCP_NODELAY"
  | keepAlive => "SO_KEEPALIVE"
  | keepIdle => "TCP_KEEPIDLE"
  | keepInterval => "TCP_KEEPINTVL"
  | keepCount => "TCP_KEEPCNT"

def SocketOption.level : SocketOption → String
  | reuseAddress => "SOL_SOCKET"
  | keepAlive => "SOL_SOCKET"
  | _ => "IPPROTO_TCP"

/-- A call on the way to an open socket. -/
inductive OpeningStep
  | create
  | setTimeout
  | connect
  | setOption (option : SocketOption)
  | setBlocking
  | bind
  | listen
  | readName
  /-- Closing the socket after another call has failed. -/
  | close
deriving DecidableEq

/-- A socket: failures of its set-up, and the schedules of its two directions. -/
structure Socket (τ : Type) where
  createError : Option String := none
  connectError : Option String := none
  connectFault : Option String := none
  optionError : Option String := none
  closeError : Option String := none
  bindError : Option String := none
  listenError : Option String := none
  /-- Failures of any kind, which go before those above. -/
  faults : OpeningStep → Option Fault := fun _ => none
  boundPort : Value := .int 40000
  arrivals : List (Arrival τ) := []
  uptakes : List (Uptake τ) := []

/-- How a call on the way to an open socket fails, if it does. -/
def Socket.fault? {τ : Type} (s : Socket τ) (step : OpeningStep) : Option Fault :=
  (s.faults step).or <| match step with
    | .create => s.createError.map .system
    | .connect => (s.connectFault.map .breakdown).or (s.connectError.map .system)
    | .setOption option =>
      if s.optionError = some option.name then some (.system (option.name ++ " failed")) else none
    | .bind => s.bindError.map .system
    | .listen => s.listenError.map .system
    | .close => s.closeError.map .system
    | _ => none

inductive Received
  | byte (b : UInt8)
  | ended
  | blocked
  | interrupted
  | failed (text : String)

inductive Sent
  | taken (limit : Option Nat)
  | blocked
  | interrupted
  | failed (text : String)

/-- The first byte that has arrived and what follows it. -/
def receiveFrom {τ : Type} : List (Arrival τ) → Received × List (Arrival τ)
  | [] => (.blocked, [])
  | .data [] :: rest => receiveFrom rest
  | .data [b] :: rest => (.byte b, rest)
  | .data (b :: c :: bytes) :: rest => (.byte b, .data (c :: bytes) :: rest)
  | .pause time :: rest => (.blocked, .pause time :: rest)
  | .closed :: rest => (.ended, .closed :: rest)
  | .failure text :: rest => (.failed text, .failure text :: rest)
  | .interruption :: rest => (.interrupted, rest)
  | .waitFailure :: rest => (.blocked, .waitFailure :: rest)

/-- The first byte that has arrived, left where it is. -/
def peekFrom {τ : Type} : List (Arrival τ) → Received × List (Arrival τ)
  | .data [] :: rest => peekFrom rest
  | .data (b :: bytes) :: rest => (.byte b, .data (b :: bytes) :: rest)
  | arrivals => receiveFrom arrivals

namespace Socket

variable {τ : Type} [Zero τ] [Add τ] [Sub τ] [LE τ] [DecidableLE τ]

def receive (s : Socket τ) : Received × Socket τ :=
  let (result, arrivals) := receiveFrom s.arrivals
  (result, { s with arrivals })

def peek (s : Socket τ) : Received × Socket τ :=
  let (result, arrivals) := peekFrom s.arrivals
  (result, { s with arrivals })

/-- Sends bytes; without a schedule all are taken. -/
def send (s : Socket τ) : Sent × Socket τ :=
  match s.uptakes with
  | [] => (.taken none, s)
  | .accept count :: rest => (.taken (some count), { s with uptakes := rest })
  | .failure text :: _ => (.failed text, s)
  | .interruption :: rest => (.interrupted, { s with uptakes := rest })
  | .pause _ :: _ => (.blocked, s)
  | .stuck :: _ => (.blocked, s)
  | .waitFailure :: _ => (.blocked, s)

/-- Waits at most `limit` for something to arrive; the time that passes is added to the clock. -/
def awaitArrival (s : Socket τ) (limit clock : τ) : Socket τ × τ :=
  match s.arrivals with
  | [] => (s, clock + limit)
  | .waitFailure :: rest => ({ s with arrivals := rest }, clock)
  | .pause time :: rest =>
    if time ≤ limit then ({ s with arrivals := rest }, clock + time)
    else ({ s with arrivals := .pause (time - limit) :: rest }, clock + limit)
  | _ => (s, clock)

/-- Waits at most `limit` until bytes can be sent. -/
def awaitUptake (s : Socket τ) (limit clock : τ) : Socket τ × τ :=
  match s.uptakes with
  | .waitFailure :: rest => ({ s with uptakes := rest }, clock)
  | .stuck :: _ => (s, clock + limit)
  | .pause time :: rest =>
    if time ≤ limit then ({ s with uptakes := rest }, clock + time)
    else ({ s with uptakes := .pause (time - limit) :: rest }, clock + limit)
  | _ => (s, clock)

inductive LineEnd
  | line (bytes : List UInt8)
  /-- The deadline passed; the partial line is kept. -/
  | expired
  | overflow
  | closed
  | failed (text : String)

inductive WriteEnd
  | done
  | expired (sent : Nat)
  | closed
  | failed (text : String)

/-- Reads bytes into the buffer until a line ends, the line reaches the bound, the socket fails, or
nothing has arrived by the deadline.  `rounds` bounds the number of looks at the socket. -/
def readLine (limit : Int) (deadline : τ) :
    Nat → Socket τ → τ → LineBuffer → LineEnd × Socket τ × τ × LineBuffer
  | 0, s, clock, buffer => (.expired, s, clock, buffer)
  | rounds + 1, s, clock, buffer =>
    let waiting (s : Socket τ) :=
      let remaining := deadline - clock
      if remaining ≤ 0 then (.expired, s, clock, buffer)
      else
        let (s, clock) := s.awaitArrival remaining clock
        readLine limit deadline rounds s clock buffer
    match s.receive with
    | (.blocked, s) => waiting s
    | (.interrupted, s) => waiting s
    | (.ended, s) => (.closed, s, clock, buffer)
    | (.failed text, s) => (.failed text, s, clock, buffer)
    | (.byte b, s) =>
      match buffer.push limit b with
      | (buffer, .complete line) => (.line line, s, clock, buffer)
      | (buffer, .overflow) => (.overflow, s, clock, buffer)
      | (buffer, .partialLine) => readLine limit deadline rounds s clock buffer
      | (buffer, .resumed) => readLine limit deadline rounds s clock buffer

/-- Sends all of `rest`, of which `sent` bytes went before, collecting what each call took, the last call
first.  `rounds` bounds the number of calls; with nothing left to send no round is needed. -/
def writeAll (deadline : τ) (rounds : Nat) (s : Socket τ) (clock : τ) (sent : Nat) (rest : List UInt8)
    (taken : List (List UInt8)) : WriteEnd × Socket τ × τ × List (List UInt8) :=
  if rest.isEmpty then (.done, s, clock, taken)
  else
    match rounds with
    | 0 => (.expired sent, s, clock, taken)
    | rounds + 1 =>
      let waiting (s : Socket τ) :=
        let remaining := deadline - clock
        if remaining ≤ 0 then (.expired sent, s, clock, taken)
        else
          let (s, clock) := s.awaitUptake remaining clock
          writeAll deadline rounds s clock sent rest taken
      match s.send with
      | (.blocked, s) => waiting s
      | (.interrupted, s) => waiting s
      | (.failed text, s) => (.failed text, s, clock, taken)
      | (.taken none, s) => (.done, s, clock, rest :: taken)
      | (.taken (some count), s) =>
        let chunk := rest.take count
        if chunk.isEmpty then (.closed, s, clock, [] :: taken)
        else
          writeAll deadline rounds s clock (sent + chunk.length) (rest.drop count) (chunk :: taken)

/-- Looks at a socket that a wait can leave without progress: the wait brings the clock to the
deadline, and rounding may make it fall short a few times. -/
def idleRounds : Nat := 8

/-- Rounds that reading can take: one for each byte and each entry of the schedule. -/
def readRounds (s : Socket τ) : Nat :=
  (s.arrivals.map fun | .data bytes => bytes.length + 1 | _ => 1).foldr (· + ·) idleRounds

/-- Rounds that sending can take: one for each entry of the schedule. -/
def writeRounds (s : Socket τ) : Nat := s.uptakes.length + idleRounds

end Socket

end PeripheralLink
