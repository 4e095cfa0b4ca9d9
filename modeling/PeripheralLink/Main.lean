import PeripheralLink.Loop
import PeripheralLink.Companion.Program
import PeripheralLink.Stress.Program
import PeripheralLink.Value.Json
/-!
The three programs as rehearsals: the network and the time are those of the library, and what happens
meanwhile is read from standard input.  The first word of the command line picks the program; without
one of their names it is the driving loop.
-/

namespace PeripheralLink

def settingNames : List String :=
  ["VMU_NETWORK_ENABLED", "VMU_NETWORK_HOST", "VMU_NETWORK_PORT", "VMU_CONNECT_TIMEOUT",
    "VMU_IO_TIMEOUT_MS", "VMU_MAX_LINE_LENGTH", "LOG_LEVEL", "LOG_FILE", "VMU_NOTIFY_SOCKETIO_URL",
    "VMU_TICK_HZ"]

def rehearsalLog : LogOutput := { stamp := "rehearsal", directory := "/rehearsal" }

/-- A line of standard input as what happens during a pause of the loop, described in JSON. -/
def happening (line : String) : Happening Float :=
  (Value.ofJson? line).elim .nothing Happening.ofValue

/-- Prints what a program printed. -/
def printAll (log : LogOutput) : IO Unit := do
  for text in log.printed do
    IO.print text

def tellStop (stop : CommandLine.Stop) : IO UInt32 := do
  match stop.message? with
  | none => return 0
  | some message =>
    IO.eprintln ("error: " ++ message)
    return 2

def tellFault (f : Fault) : IO UInt32 := do
  IO.eprintln ("error: " ++ f.text)
  return 1

def rehearseLoop (arguments : List String) : IO UInt32 := do
  let env ← settingNames.filterMapM fun name => do
    return (← IO.getEnv name).map fun value => (name, value)
  match Settings.load env with
  | none => tellFault .beyondDoubles
  | some (settings, _) =>
    match LoopOptions.read settings arguments with
    | .error stop => tellStop stop
    | .ok options =>
      let lines := linesFrom [] (← (← IO.getStdin).readToEnd).toList
      match runLoop settings options { clock := 0.0 } {} rehearsalLog (lines.map happening) with
      | .error f => tellFault f
      | .ok outcome =>
        printAll outcome.log
        return if outcome.stopped then 0 else 1

/-- Rehearses the companion; standard input is what a link sends. -/
def rehearseCompanion (arguments : List String) : IO UInt32 := do
  match CompanionOptions.read arguments with
  | .error stop => tellStop stop
  | .ok options =>
    let sent := (← (← IO.getStdin).readToEnd).toUTF8.toList
    let visitor : Visitor := { host := .text "-", port := .int 0, chunks := [.data sent] }
    let outcome := runCompanion options {} [.visitor visitor] rehearsalLog []
    printAll outcome.log
    for entry in outcome.companion.journal do
      if let .reply _ line := entry then IO.print (String.ofList line)
    match outcome.result with
    | .ok () => return 0
    | .error f => tellFault f

def rehearseStress (arguments : List String) : IO UInt32 := do
  match StressOptions.read arguments with
  | .error stop => tellStop stop
  | .ok options =>
    let outcome := runStress options { clock := 0.0 } [] rehearsalLog
    printAll outcome.log
    match outcome.result with
    | .ok passed => return if passed then 0 else 1
    | .error f => tellFault f

end PeripheralLink

open PeripheralLink in
def main (arguments : List String) : IO UInt32 :=
  match arguments with
  | "companion" :: rest => rehearseCompanion rest
  | "stress" :: rest => rehearseStress rest
  | "loop" :: rest => rehearseLoop rest
  | _ => rehearseLoop arguments
