import UptimeMonitor.Json.Writer
import UptimeMonitor.Status.Basic
import UptimeMonitor.Text.LetterCase
import UptimeMonitor.Time.Instant

/-!
# Notices

A notice tells of one change of status, in no particular form.

- `Notice`: what changed, when, and what is known about it.
- `Notice.isRecovery`: the change is one for the better.
- `Notice.sample`: the notice that tries out a channel.
- `durationText`: a time span for people.
-/

namespace UptimeMonitor

/-- The notice of one change of status. -/
structure Notice where
  monitorId : String
  monitorName : String
  status : Status
  previousStatus : Option Status
  url : Option String
  responseTimeMs : Option Nat
  errorMessage : Option String
  timestamp : Instant
  incidentDuration : Option Int
deriving DecidableEq, Repr

namespace Notice

/-- The monitor came up from a status that is known and another. -/
def isRecovery (n : Notice) : Bool :=
  n.status == .up && n.previousStatus.any (· != .up)

/-- The notice that tries out a channel. -/
def sample (now : Instant) : Notice where
  monitorId := "test-monitor-id"
  monitorName := "Test Monitor"
  status := .down
  previousStatus := some .up
  url := some "https://example.com/health"
  responseTimeMs := some 1234
  errorMessage := some "This is a test notification"
  timestamp := now
  incidentDuration := none

/-- A status by its name, as JSON. -/
def statusJson (s : Status) : Json := .string s.name

/-- The notice as JSON. -/
def toJson (n : Notice) : Json :=
  .object [
    ("monitorId", .string n.monitorId),
    ("monitorName", .string n.monitorName),
    ("status", statusJson n.status),
    ("previousStatus", Json.ofOption statusJson n.previousStatus),
    ("url", Json.ofOption .string n.url),
    ("responseTimeMs", Json.ofOption .ofNat n.responseTimeMs),
    ("errorMessage", Json.ofOption .string n.errorMessage),
    ("timestamp", .string n.timestamp.text),
    ("incidentDuration", Json.ofOption .ofInt n.incidentDuration)]

/-- The status in capitals. -/
def statusCapitals (n : Notice) : String := Text.upperAscii n.status.name

/-- The headline. -/
def title (n : Notice) : String :=
  if n.isRecovery then s!"Monitor Recovered: {n.monitorName}"
  else s!"Monitor {n.statusCapitals}: {n.monitorName}"

end Notice

/-- The color of a status, red, green and blue in one number. -/
def Status.color : Status → Nat
  | up => 0x22c55e
  | down => 0xef4444
  | degraded => 0xf59e0b

/-- A time span for people: seconds, minutes and seconds, or hours and minutes. -/
def durationText (seconds : Int) : String :=
  -- a time span that is negative counts as none
  let s := seconds.toNat
  if s < 60 then s!"{s}s"
  else if s < 3600 then s!"{s / 60}m {s % 60}s"
  else s!"{s / 3600}h {s % 3600 / 60}m"

/-- An integer in decimal digits. -/
def intText (n : Int) : String := String.ofList (intChars n)

end UptimeMonitor
