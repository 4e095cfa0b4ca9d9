import PeripheralLink.Stress.Bench
import PeripheralLink.Rig
import PeripheralLink.CommandLine.Programs
/-!
The stress tests: a link is kept going while its companion is restarted, and turned on and off while
the companion runs.  A test says how many cycles went well, what went wrong, and whether connections
were left behind.
-/

namespace PeripheralLink

/-- Why a test ends early. -/
inductive Halt
  | fault (f : Fault)
  | exit

/-- What happens during a pause. -/
inductive PauseEvent
  | signal
  | fault (text : String)

structure StressResult where
  test : StressTest
  completed : Int
  total : Value
  passed : Bool
  duration : Float
  errors : List String
  leaked : Int

/-- A tester: one link on a bench, and the companion in use. -/
structure Tester where
  port : Value
  rig : Rig Bench Float
  companion : Option Nat := none
  handlesSignals : Bool := false
  pauses : Nat := 0
  events : List (Nat × PauseEvent) := []
  errors : List String := []

abbrev Trial (α : Type) := ExceptT Halt (StateM Tester) α

namespace Tester

def target (t : Tester) : Target := ⟨.text "127.0.0.1", t.port⟩

/-- The link's timing: health checks are frequent and the delays short. -/
def linkOptions : LinkOptions Float where
  limits := ⟨3.0, 0.25, defaultLineLimit⟩
  codec := {}
  healthInterval := 0.5
  statusInterval := 0.0
  backoff := .start 0.1 2.0 0.5

def make (port : Value) (bench : Bench) (events : List (Nat × PauseEvent)) : Tester :=
  let target : Target := ⟨.text "127.0.0.1", port⟩
  { port, events, rig := (({ outside := bench } : Rig Bench Float).addLink linkOptions target .callback).2 }

def phase (t : Tester) : Phase := ((t.rig.link? 0).map Link.phase).getD .disabled

/-- The messages of the notifications so far. -/
def messages (t : Tester) : List String :=
  t.rig.journal.toList.filterMap fun | .notified n => some n.message | _ => none

end Tester

namespace Trial

def onRig (change : Rig Bench Float → Rig Bench Float) : Trial Unit :=
  modify fun t => { t with rig := change t.rig }

/-- Calls on the rig what may break down. -/
def call {α : Type} (run : Rig Bench Float → Except Fault α × Rig Bench Float) : Trial α := do
  let (result, rig) := run (← get).rig
  modify fun t => { t with rig }
  match result with
  | .ok a => return a
  | .error f => throw (.fault f)

def say (text : String) : Trial Unit := onRig (·.record (.printed text))

def note (text : String) : Trial Unit := modify fun t => { t with errors := t.errors ++ [text] }

def time : Trial Float := return (← get).rig.now

def countSockets : Trial Int := do
  let ports ← call fun r => let (ports, r) := r.via Bench.listConnections; (.ok ports, r)
  let port := (← get).port
  return (ports.filter fun remote => !remote.same .null && remote.same port).length

def startCompanion : Trial Unit := do
  let id ← call fun r => let (id, r) := r.via Bench.make; (.ok id, r)
  modify fun t => { t with companion := some id }
  let target := (← get).target
  call fun r => r.via fun b => b.start id target

def stopCompanion : Trial Unit := do
  match (← get).companion with
  | none => return
  | some id =>
    call fun r => r.via fun b => b.stop id
    modify fun t => { t with companion := none }

def stopAll : Trial Unit := do
  onRig (·.shutDownLink 0)
  stopCompanion

def setEnabled (on : Bool) : Trial Unit := onRig (·.setEnabled 0 on)

/-- Pauses; what happens meanwhile happens at the end of the pause. -/
def pause (length : Float) : Trial Unit := do
  onRig (·.wait length)
  let t ← get
  set { t with pauses := t.pauses + 1 }
  match t.events.lookup t.pauses with
  | none => return
  | some (.fault text) => throw (.fault (.breakdown text))
  | some .signal =>
    if t.handlesSignals then
      say "\nShutdown signal received...\n"
      stopAll
      throw .exit

def tickInterval : Float := 0.01

def patience : Float := 5.0

/-- Updates within `patience`.  A tick may come out as short as half of `tickInterval`, where the
clock has no finer steps. -/
def tickBound : Nat := 1024

/-- Updates the link until it is in a phase; false once the deadline has passed. -/
def tickUntil (wanted : Phase) (deadline : Float) : Nat → Trial Bool
  | 0 => return false
  | bound + 1 => do
    if (← time) < deadline then
      call fun r => r.update 0 id id
      if (← get).phase = wanted then return true
      pause tickInterval
      tickUntil wanted deadline bound
    else return false

/-- Updates the link until it is in a phase, for as long as that may take. -/
def await (wanted : Phase) : Trial Bool := do tickUntil wanted ((← time) + patience) tickBound

def rule : String := String.ofList (List.replicate 60 '=') ++ "\n"

def heading (title : String) (cycles : Value) : Trial Unit := do
  say ("\n" ++ rule)
  say ("Test: " ++ title ++ " (" ++ cycles.inline ++ " cycles)\n")
  say (rule ++ "\n")

/-- Runs cycles by their numbers; what is no whole number is no number of cycles. -/
def forCycles (cycles : Value) (run : Nat → Trial Unit) : Trial Unit :=
  match cycles.int? with
  | some count => (List.range count.toNat).forM run
  | none => throw (.fault (.notCountable cycles.kind))

/-- The request of a cycle: the device is asked what it is. -/
def requestMessage : Message := { command := deviceRequest, destination := 0x01 }

def cycleName (cycle : Nat) : String := "Cycle " ++ Number.integer (cycle + 1)

/-- A restart of the companion: the link connects, makes a request and notices the outage. -/
def restart (cycle : Nat) : Trial Unit := do
  startCompanion
  if !(← await .connected) then
    note (cycleName cycle ++ ": never reached CONNECTED")
    say "FAIL (connect)\n"
    stopCompanion
    return
  let reply ← call fun r => r.request 0 requestMessage
  if !reply.any fun m => m.command = deviceInfo then
    note (cycleName cycle ++ ": request failed")
    say "FAIL (request)\n"
  stopCompanion
  if !(← await .reconnecting) then
    note (cycleName cycle ++ ": outage not detected")
    say "FAIL (health check)\n"
    return
  say "OK\n"

/-- A cycle of restarts; a breakdown is one of its errors. -/
def restartCycle (cycles : Value) (cycle : Nat) : Trial Unit := do
  say (cycleName cycle ++ "/" ++ cycles.inline ++ "... ")
  tryCatch (restart cycle) fun
    | .exit => throw .exit
    | .fault f => do
      note (cycleName cycle ++ ": " ++ f.text)
      say ("ERROR: " ++ f.text ++ "\n")
      stopCompanion

def result (test : StressTest) (cycles : Value) (leaked : Int) (began : Float) : Trial StressResult := do
  let duration := (← time) - began
  let errors := (← get).errors
  return {
    test, duration, errors, leaked
    completed := cycles.int?.getD 0 - errors.length
    total := cycles
    passed := errors.isEmpty && leaked ≤ 0 }

/-- The companion is restarted while the link is kept going. -/
def companionRestart (cycles : Value) : Trial StressResult := do
  heading "Companion Restart" cycles
  let began ← time
  modify fun t => { t with errors := [] }
  let before ← countSockets
  setEnabled true
  forCycles cycles (restartCycle cycles)
  setEnabled false
  let leaked := (← countSockets) - before
  let told := (← get).messages.count Edge.disconnected.notification.message
  if (← get).errors.isEmpty && cycles.int? != some (told : Int) then
    note ("Expected " ++ cycles.inline ++ " disconnect notifications, got " ++
      Number.integer told)
  let outcome ← result .companionRestart cycles leaked began
  say ("\nLink sockets: leaked=" ++ Number.integer leaked ++ ", notifications=" ++
    Number.integer (← get).messages.length ++ "\n")
  return outcome

def toggle (cycle : Nat) : Trial Unit := do
  setEnabled true
  if !(← await .connected) then note (cycleName cycle ++ ": never reached CONNECTED")
  setEnabled false

/-- The link is turned on and off while the companion runs. -/
def rapidToggle (cycles : Value) : Trial StressResult := do
  heading "Rapid Enable/Disable" cycles
  let began ← time
  modify fun t => { t with errors := [] }
  startCompanion
  let before ← countSockets
  forCycles cycles toggle
  let leaked := (← countSockets) - before
  stopCompanion
  let outcome ← result .rapidToggle cycles leaked began
  say ("Completed " ++ cycles.inline ++ " toggles, leaked sockets=" ++
    Number.integer leaked ++ "\n")
  return outcome

def perform (test : StressTest) (cycles : Value) : Trial StressResult :=
  match test with
  | .companionRestart => companionRestart cycles
  | .rapidToggle => rapidToggle cycles

end Trial

end PeripheralLink
