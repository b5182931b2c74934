import Std.Time.DateTime.Timestamp
import UptimeMonitor.CommandLine.Program

/-!
# The command line program

Reads files, the environment, the clock and random bytes, and leaves the rest to `Program.run`.
Requests go nowhere: the program has no way to the network of its own, so every one of them ends as
unreachable.
-/

open UptimeMonitor

namespace CommandLine

/-- The contents of a file that can be read. -/
def readFile (path : String) : IO (Option String) := do
  try
    return some (← IO.FS.readFile path)
  catch _ =>
    return none

/-- The variables of the environment that are settings. -/
def environment : IO (List (String × String)) := do
  let names := ["notification_encryption_key", "vapid_subject", "user_agent",
    "sweep_interval_seconds", "sweep_concurrency", "check_retention_days", "rollup_retention_days",
    "log_dir", "seed_file"]
  let spellings := names.flatMap fun name => [Text.upperAscii name, name]
  spellings.filterMapM fun name => do
    return (← IO.getEnv name).map fun value => (name, value)

/-- The time of the wall clock. -/
def now : IO Instant := do
  let time ← Std.Time.Timestamp.now
  return ⟨time.toSecondsSinceUnixEpoch.val, 0⟩

/-- Waits without end. -/
partial def wait : IO Unit := do
  IO.sleep 60000
  wait

/-- Sweeps at regular times without end. -/
partial def serve (settings : SweepSettings) (period : Nat) (w : World)
    (lastRollup : Option Date) : IO Unit := do
  let (w, lastRollup) := runPeriodically settings 1 { w with now := ← now } lastRollup
  IO.sleep (1000 * max period 1).toUInt32
  serve settings period w lastRollup

end CommandLine

/-- Runs the program on its command line. -/
def main (arguments : List String) : IO UInt32 := do
  let seed := (← IO.getRandomBytes 32).toList
  let w : World :=
    { network := Http.Network.offline, tape := .ofSeed seed, now := ← CommandLine.now }
  let around : Surroundings IO :=
    { readFile := CommandLine.readFile
      variablesFile := CommandLine.readFile ".env"
      environment := ← CommandLine.environment }
  let outcome ← Program.run around w arguments
  (← IO.getStdout).putStr outcome.stdout
  (← IO.getStderr).putStr outcome.stderr
  match outcome with
  | .failure _ reason => (← IO.getStderr).putStrLn s!"Error: {reason}"
  | .serving config settings w => CommandLine.serve settings config.sweepIntervalSeconds w none
  | .sweeping => CommandLine.wait
  | _ => pure ()
  return outcome.exitCode.toUInt32
