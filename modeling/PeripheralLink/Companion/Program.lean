import PeripheralLink.Companion.Server
import PeripheralLink.CommandLine.Programs
import PeripheralLink.Log.Output
/-!
The companion as a program: it listens until a signal stops it, or a pause between looks at that
signal breaks down, and closes everything at the end.
-/

namespace PeripheralLink

inductive Interruption
  | nothing
  | signal
  | fault (text : String)

/-- Seconds between looks at the signal. -/
def lookInterval : Float := 0.2

/-- Pauses up to the signal or the first that breaks down; after the last a signal comes. -/
def pausesUntil : List Interruption → Nat × Except Fault Unit
  | [] => (1, .ok ())
  | .signal :: _ => (1, .ok ())
  | .fault text :: _ => (1, .error (.breakdown text))
  | .nothing :: rest =>
    let (pauses, result) := pausesUntil rest
    (pauses + 1, result)

structure CompanionOutcome where
  result : Except Fault Unit
  pauses : Nat
  companion : Companion Float
  log : LogOutput

/-- Runs the companion.  Where it cannot be started, it is not stopped either. -/
def runCompanion (options : CompanionOptions) (socket : Socket Float) (admissions : List Admission)
    (log : LogOutput) (interruptions : List Interruption) : CompanionOutcome :=
  let log := log.start "companion_sim" options.logLevel none
  let idle : Companion Float := { target := options.target, replies := !options.silent }
  let (result, pauses, companion) : Except Fault Unit × Nat × Companion Float :=
    match idle.start socket admissions with
    | (.error fault, c) => (.error fault, 0, c)
    | (.ok (), c) =>
      let (pauses, result) := pausesUntil interruptions
      (result, pauses, c.stop)
  let entries := companion.journal.toList.filterMap fun
    | .report notice => some notice.entry
    | _ => none
  { result, pauses, companion, log := log.writeAll entries }

end PeripheralLink
