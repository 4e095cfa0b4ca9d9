import PeripheralLink.Bridge
import PeripheralLink.CommandLine.Programs
import PeripheralLink.Log.Output
import PeripheralLink.Wire.Lan
/-!
The driving loop: a bridge that is turned on and updated at a steady rate until a signal stops it or
something breaks down; either way the bridge is shut down at the end.

A signal may come at any time.  It is reported and clears the loop's flag, which is tested before
each update.
-/

namespace PeripheralLink

inductive Happening (τ : Type)
  | nothing
  | signal (signal : Value)
  | fault (text : String)
  | delay (time : τ)
  | client (change : Client → Client)

/-- A happening as it is described: a list of its word and a value. -/
def Happening.ofValue : Value → Happening Float
  | .list [.text "signal", number] => .signal number
  | .list [.text "raise", reason] => .fault reason.spelled
  | .list [.text "advance", time] =>
    match time.float? with
    | some time => .delay time
    | none => .fault Fault.beyondDoubles.text
  | _ => .nothing

/-- The signal that ends a loop that nothing else ends. -/
def terminationSignal : Value := .int 15

/-- A signal that comes during some work, so many of its entries after the signal before it. -/
structure ArrivingSignal where
  signal : Value
  after : Nat := 0

/-- What comes from outside during a round of the loop. -/
structure Round (τ : Type) where
  /-- Signals between the loop's test and its update. -/
  early : List Value := []
  client : Client → Client := id
  /-- What becomes of the backend's client while the update connects. -/
  window : Client → Client := id
  update : List ArrivingSignal := []
  /-- What happens during the pause and up to the next test. -/
  pause : List (Happening τ) := []

/-- What comes from outside once signals are handled. -/
structure Schedule (τ : Type) where
  opening : List ArrivingSignal := []
  /-- Signals while its link is turned on, and up to setting the flag. -/
  enabling : List ArrivingSignal := []
  client : Client → Client := id
  /-- Signals between setting the flag and its first test. -/
  armed : List Value := []
  rounds : List (Round τ)
  closing : List ArrivingSignal := []

/-- One happening a pause, and a signal in the pause after the last. -/
def Schedule.ofHappenings {τ : Type} (happenings : List (Happening τ)) : Schedule τ where
  rounds := happenings.map (fun happening => { pause := [happening] }) ++
    [{ pause := [.signal terminationSignal] }]

/-- What happens in a run of the program, as far as it bears on the loop. -/
inductive Milestone
  | signal
  | armed
  | passed
  | update
  | pause
  | shutDown
deriving DecidableEq, Repr

def Milestone.signals {α : Type} (handled : List α) : List Milestone :=
  List.replicate handled.length .signal

inductive Ending
  | stopped
  | broken
  | driving
deriving DecidableEq, Repr

structure LoopRun (σ τ : Type) where
  ending : Ending
  course : List Milestone
  rig : Rig σ τ

/-- A run that comes after something else. -/
def LoopRun.after {σ τ : Type} (run : LoopRun σ τ) (course : List Milestone) : LoopRun σ τ :=
  { run with course := course ++ run.course }

/-- The entries of some work with the reports on signals among them. -/
def weave {τ : Type} (entries : List (Entry τ)) : List ArrivingSignal → List (Entry τ)
  | [] => entries
  | i :: rest =>
    entries.take i.after ++
      .report (.bridge (.signalled i.signal)) :: weave (entries.drop i.after) rest

/-- The program between two steps: its rig and the loop's flag. -/
structure Driving (σ τ : Type) where
  rig : Rig σ τ
  running : Bool := true

namespace Rig

variable {σ τ : Type}

/-- The clients after something has become of them that is not the rig's doing. -/
def changeClients (r : Rig σ τ) (change : Client → Client) : Rig σ τ :=
  { r with clients := r.clients.map change }

variable [Carrier σ τ]

/-- Ends the loop after a breakdown. -/
def giveUp (r : Rig σ τ) (reason : String) : Rig σ τ :=
  (r.report (.bridge (.fatal reason))).shutDownBridge

/-- Updates the bridge's link, if it has one.  `window` happens while it connects. -/
def updateBridge [Zero τ] [Sub τ] [Mul τ] [LE τ] [DecidableLE τ] [LT τ] [DecidableLT τ]
    (r : Rig σ τ) (window : Rig σ τ → Rig σ τ := id) : Except Fault Unit × Rig σ τ :=
  match r.bridge.station with
  | some k => r.update k window id
  | none => (.ok (), r)

end Rig

namespace Driving

variable {σ τ : Type}

def handle (d : Driving σ τ) (signal : Value) : Driving σ τ where
  rig := d.rig.report (.bridge (.signalled signal))
  running := false

/-- Some work changes the rig, and signals come meanwhile. -/
def work (d : Driving σ τ) (signals : List ArrivingSignal) (r : Rig σ τ) : Driving σ τ :=
  if signals.isEmpty then { d with rig := r }
  else {
    rig := { r with
      journal := d.rig.journal ++ weave (r.journal.toList.drop d.rig.journal.size) signals }
    running := false }

/-- Something becomes of the backend's client. -/
def changeClients (d : Driving σ τ) (change : Client → Client) : Driving σ τ :=
  { d with rig := d.rig.changeClients change }

variable [Carrier σ τ]

/-- Time passes. -/
def wait (d : Driving σ τ) (time : τ) : Driving σ τ := { d with rig := d.rig.wait time }

/-- Goes through the happenings of a pause up to a breakdown, if there is one. -/
def meet (d : Driving σ τ) : List (Happening τ) → List Milestone × Option String × Driving σ τ
  | [] => ([], none, d)
  | .nothing :: rest => d.meet rest
  | .delay time :: rest => (d.wait time).meet rest
  | .client change :: rest => (d.changeClients change).meet rest
  | .fault reason :: _ => ([], some reason, d)
  | .signal signal :: rest =>
    let (course, reason, d) := (d.handle signal).meet rest
    (.signal :: course, reason, d)

def close (d : Driving σ τ) (ending : Ending) (closing : List ArrivingSignal) (r : Rig σ τ) :
    LoopRun σ τ where
  ending
  course := Milestone.signals closing ++ [.shutDown]
  rig := (d.work closing r).rig

section
variable [Zero τ] [Sub τ] [Mul τ] [LE τ] [DecidableLE τ] [LT τ] [DecidableLT τ]

/-- A round of the loop: an update and a pause, unless one of them breaks down. -/
def round (d : Driving σ τ) (pause : τ) (round : Round τ) :
    List Milestone × Option String × Driving σ τ :=
  let d := (round.early.foldl handle d).changeClients round.client
  let begun := .passed :: Milestone.signals round.early ++ .update :: Milestone.signals round.update
  match d.rig.updateBridge fun r => r.changeClients round.window with
  | (.error fault, r) => (begun, some fault.text, d.work round.update r)
  | (.ok (), r) =>
    let (course, reason, d) := ((d.work round.update r).wait pause).meet round.pause
    (begun ++ .pause :: course, reason, d)

/-- Runs the loop for as many rounds as are known. -/
def drive (d : Driving σ τ) (pause : τ) (closing : List ArrivingSignal) :
    List (Round τ) → LoopRun σ τ
  | [] =>
    if d.running then ⟨.driving, [], d.rig⟩ else d.close .stopped closing d.rig.shutDownBridge
  | round :: rest =>
    if d.running then
      match d.round pause round with
      | (course, some reason, d) => (d.close .broken closing (d.rig.giveUp reason)).after course
      | (course, none, d) => (d.drive pause closing rest).after course
    else d.close .stopped closing d.rig.shutDownBridge

def run (d : Driving σ τ) (pause : τ) (schedule : Schedule τ) : LoopRun σ τ :=
  let d := schedule.armed.foldl handle ({ d with running := true }.changeClients schedule.client)
  (d.drive pause schedule.closing schedule.rounds).after
    (.armed :: Milestone.signals schedule.armed)

end

end Driving

/-- Opens the bridge and turns its link on. -/
def Rig.launch {σ τ : Type} [Carrier σ τ] [Zero τ] (r : Rig σ τ) (options : BridgeOptions τ)
    (host port : Option Value) (schedule : Schedule τ) : Except Fault (Driving σ τ) :=
  match r.openBridge options host port with
  | (.error fault, _) => .error fault
  | (.ok (), opened) =>
    let d := Driving.work ⟨r, true⟩ schedule.opening opened
    .ok (d.work schedule.enabling (d.rig.setBridgeEnabled true))

/-- The pause between updates at a rate; a rate that is not positive counts as sixty a second. -/
def tickLength (rate : Float) : Float := if rate > 0.0 then 1.0 / rate else 1.0 / 60.0

/-- The outcome of a run of the program. -/
structure LoopOutcome where
  stopped : Bool
  pause : Float
  pauses : Nat
  rig : Rig (Lan Float) Float
  log : LogOutput

/-- Runs the program on a network.  A failure to set the log up or to open the bridge is raised, and
so is a rate that is no number. -/
def runProgram (settings : Settings) (options : LoopOptions) (net : Network Float) (client : Client)
    (log : LogOutput) (schedule : Schedule Float) : Except Fault LoopOutcome := do
  let log ← log.setUp "vmu_link" options.logLevel options.logFile
  let rig : Rig (Lan Float) Float := { outside := { net }, freshClient := client }
  let d ← rig.launch settings.bridgeOptions options.host options.port schedule
  match options.tickRate.float? with
  | none => .error (.notComparable options.tickRate.kind)
  | some rate =>
    let pause := tickLength rate
    let run := d.run pause schedule
    .ok {
      stopped := run.ending = .stopped
      pause
      pauses := run.course.count .pause
      rig := run.rig
      log := log.writeAll (run.rig.journal.toList.filterMap fun
        | .report r => some r.entry
        | _ => none) }

/-- Runs the program with one happening a pause and a signal after the last. -/
def runLoop (settings : Settings) (options : LoopOptions) (net : Network Float) (client : Client)
    (log : LogOutput) (happenings : List (Happening Float)) : Except Fault LoopOutcome :=
  runProgram settings options net client log (.ofHappenings happenings)

end PeripheralLink
