import UptimeMonitor.Run.Report
import UptimeMonitor.Status.Basic

/-!
# The verdict on a run

- `failures`: the assertions that did not hold, with the names of their steps.
- `verdictStatus`: the status that they amount to.
- `score`: the status and a short summary.
-/

namespace UptimeMonitor

/-- How many failures a summary quotes. -/
def quotedFailures : Nat := 2

/-- The assertions that did not hold, with the names of their steps, in order. -/
def failures (reports : List StepReport) : List (String × Outcome) :=
  reports.flatMap fun r => r.failed.map fun o => (r.name, o)

/-- The status that failures amount to: the worst severity counts. -/
def verdictStatus (outcomes : List Outcome) : Status :=
  if outcomes.isEmpty then .up
  else if outcomes.any fun o => o.severity = .down then .down
  else .degraded

/-- The list without the repetitions that stand next to each other. -/
def withoutRepeats [DecidableEq α] : List α → List α
  | [] => []
  | [a] => [a]
  | a :: b :: rest => if a = b then withoutRepeats (b :: rest) else a :: withoutRepeats (b :: rest)

/-- A number and a noun that ends in `s` unless the number is one. -/
def counted (n : Nat) (noun : String) : String := if n = 1 then noun else noun ++ "s"

/-- The summary of failures: how many there are in how many steps, and the first of them. -/
def failureSummary (fs : List (String × Outcome)) : String :=
  let total := fs.length
  -- two steps of one name count once if no failure of another step lies between them
  let steps := (withoutRepeats (fs.map (·.1))).length
  let examples := "; ".intercalate ((fs.take quotedFailures).map fun f => s!"{f.1}: {f.2.message}")
  let more := if total > quotedFailures then s!" (+{total - quotedFailures} more)" else ""
  let assertionNoun := counted total "assertion"
  let stepNoun := counted steps "step"
  s!"{total} {assertionNoun} failed in {steps} {stepNoun}: {examples}{more}"

/-- The status of a run whose steps all have a response, and a summary of the failures. -/
def score (reports : List StepReport) : Status × Option String :=
  let fs := failures reports
  (verdictStatus (fs.map (·.2)), if fs.isEmpty then none else some (failureSummary fs))

end UptimeMonitor
