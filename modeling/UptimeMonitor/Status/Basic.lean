import UptimeMonitor.Text.Blank
import UptimeMonitor.Text.Split

/-!
# Statuses

- `Status`: the outcome of a check and the state of a monitor.
- `DayStatus`: the state of one day, which may have no samples.
- `OverallStatus`: the state of all monitors together.
- `Status.ofText?`, `Status.listOfText`: statuses from text.
-/

namespace UptimeMonitor

/-- The outcome of a check. -/
inductive Status where
  | up
  | down
  | degraded
deriving DecidableEq, Repr, Inhabited

namespace Status

/-- The name of a status. -/
def name : Status → String
  | up => "up"
  | down => "down"
  | degraded => "degraded"

/-- All statuses by name. -/
def named : List (String × Status) := [("up", up), ("down", down), ("degraded", degraded)]

/-- The status of a name without blanks around it. -/
def ofChars? (cs : List Char) : Option Status :=
  match String.ofList (Text.trimChars cs) with
  | "up" => some up
  | "down" => some down
  | "degraded" => some degraded
  | _ => none

/-- The status of a name, blanks around it aside. -/
def ofText? (s : String) : Option Status := ofChars? s.toList

/-- The statuses in a list with commas; unknown names are dropped. -/
def listOfText (s : String) : List Status := (Text.splitOn ',' s.toList).filterMap ofChars?

end Status

/-- The state of one day. -/
inductive DayStatus where
  | up
  | down
  | degraded
  | none
deriving DecidableEq, Repr

/-- The name of the state of a day. -/
def DayStatus.name : DayStatus → String
  | up => "up"
  | down => "down"
  | degraded => "degraded"
  | none => "none"

/-- A status as the state of a day. -/
def Status.toDay : Status → DayStatus
  | up => .up
  | down => .down
  | degraded => .degraded

/-- The state of all monitors together: all is well, a monitor is degraded, some are down, or all
are. -/
inductive OverallStatus where
  | operational
  | degraded
  | partialOutage
  | majorOutage
deriving DecidableEq, Repr

/-- The name of the overall state. -/
def OverallStatus.name : OverallStatus → String
  | operational => "operational"
  | degraded => "degraded"
  | partialOutage => "partial_outage"
  | majorOutage => "major_outage"

/-- The state of all monitors together. Monitors without any check do not count. -/
def OverallStatus.ofStatuses (statuses : List (Option Status)) : OverallStatus :=
  let known := statuses.filterMap id
  -- nothing speaks against it
  if known.isEmpty then .operational
  else if known.all (· = .down) then .majorOutage
  else if .down ∈ known then .partialOutage
  else if .degraded ∈ known then .degraded
  else .operational

end UptimeMonitor
