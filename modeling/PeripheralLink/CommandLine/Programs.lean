import PeripheralLink.CommandLine.Options
import PeripheralLink.Settings
/-!
The command lines of the three programs: the driving loop, the companion and the stress test.
-/

namespace PeripheralLink

open CommandLine

/-- What the driving loop is started with.  Where an option stands for an empty list, so does what it
sets. -/
structure LoopOptions where
  host : Option Value
  port : Option Value
  logLevel : Value
  logFile : Value
  tickRate : Value

/-- Reads the command line of the driving loop; the settings give what it leaves out. -/
def LoopOptions.read (settings : Settings) (arguments : List String) : Except Stop LoopOptions := do
  let values ← CommandLine.read
    [⟨"--host", some .text⟩, ⟨"--port", some .integer⟩, ⟨"--log-level", some .text⟩,
      ⟨"--log-file", some .text⟩, ⟨"--tick-hz", some .number⟩] arguments
  return {
    host := last? values "--host"
    port := last? values "--port"
    logLevel := (last? values "--log-level").getD (.text settings.logLevel)
    logFile := (last? values "--log-file").getD ((settings.logFile.map Value.text).getD .null)
    tickRate := (last? values "--tick-hz").getD (.float settings.tickRate)
  }

structure CompanionOptions where
  target : Target
  silent : Bool
  logLevel : Value

def CompanionOptions.read (arguments : List String) : Except Stop CompanionOptions := do
  let values ← CommandLine.read
    [⟨"--host", some .text⟩, ⟨"--port", some .integer⟩, ⟨"--silent", none⟩,
      ⟨"--log-level", some .text⟩] arguments
  return {
    target := ⟨(last? values "--host").getD Target.standard.host,
      (last? values "--port").getD Target.standard.port⟩
    silent := (last? values "--silent").isSome
    logLevel := (last? values "--log-level").getD (.text "INFO")
  }

inductive StressTest
  | companionRestart
  | rapidToggle
deriving DecidableEq

def StressTest.name : StressTest → String
  | companionRestart => "companion_restart"
  | rapidToggle => "rapid_toggle"

structure StressOptions where
  tests : List StressTest
  cycles : Value
  port : Value
  logLevel : Value

/-- Reads the command line of the stress test; without a choice every test runs. -/
def StressOptions.read (arguments : List String) : Except Stop StressOptions := do
  let every := [StressTest.companionRestart, .rapidToggle]
  let values ← CommandLine.read
    [⟨"--test", some (.choice (every.map StressTest.name))⟩, ⟨"--all", none⟩,
      ⟨"--cycles", some .integer⟩, ⟨"--port", some .integer⟩, ⟨"--log-level", some .text⟩] arguments
  let all := (last? values "--all").isSome
  let chosen := last? values "--test"
  return {
    tests := every.filter fun t => all || chosen.all fun choice => choice.text? == some t.name
    cycles := (last? values "--cycles").getD (.int 20)
    port := (last? values "--port").getD (.int 15393)
    logLevel := (last? values "--log-level").getD (.text "WARNING")
  }

end PeripheralLink
