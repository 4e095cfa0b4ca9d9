import PeripheralLink.Stress.Tester
import PeripheralLink.Log.Output
/-!
The stress test as a program: the chosen tests one after the other, and a summary.  However it ends,
the link is turned off and the companion stopped first.
-/

namespace PeripheralLink

/-- A result in the summary. -/
def StressResult.summary (r : StressResult) : List String :=
  ("[" ++ (if r.passed then "PASS" else "FAIL") ++ "] " ++ r.test.name ++ ": " ++
    Number.integer r.completed ++ "/" ++ r.total.inline ++ " cycles in " ++
    Number.fixed 1 r.duration ++ "s, leaked sockets=" ++ Number.integer r.leaked ++ "\n") ::
    r.errors.map fun e => "    - " ++ e ++ "\n"

namespace Trial

/-- Runs tests, and cleans up whether or not they end by themselves; a failure of cleaning up takes
the place of what went before. -/
def runAll (tests : List StressTest) (cycles : Value) : Trial (List StressResult) := do
  let results ← tryCatch (tests.mapM fun test => perform test cycles) fun halt => do
    stopAll
    throw halt
  stopAll
  return results

def program (tests : List StressTest) (cycles : Value) : Trial Bool := do
  let results ← runAll tests cycles
  say ("\n" ++ rule)
  say "SUMMARY\n"
  say rule
  results.forM fun r => r.summary.forM say
  return results.all StressResult.passed

end Trial

/-- The outcome of a run of the stress test. -/
structure StressOutcome where
  /-- Whether every test passed, unless something broke down; an end by a signal counts as passed. -/
  result : Except Fault Bool
  tester : Tester
  log : LogOutput

/-- Runs the stress test; what it prints and what it reports go to the console in order. -/
def runStress (options : StressOptions) (bench : Bench) (events : List (Nat × PauseEvent))
    (log : LogOutput) : StressOutcome :=
  let tester := { Tester.make options.port bench events with handlesSignals := true }
  let (result, tester) := (ExceptT.run (Trial.program options.tests options.cycles)).run tester
  let log := tester.rig.journal.foldl
    (fun (log : LogOutput) entry => match entry with
      | .printed text => log.print text
      | .report r => log.write r.entry.logRecord
      | _ => log)
    (log.start "stress_reconnect" options.logLevel none)
  { tester, log
    result := match result with
      | .ok passed => .ok passed
      | .error .exit => .ok true
      | .error (.fault f) => .error f }

end PeripheralLink
