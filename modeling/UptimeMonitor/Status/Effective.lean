import UptimeMonitor.Status.Basic

/-!
# The status of a monitor

One failed check does not make a monitor count as down: the checks of the last five minutes decide
together.

- `windowSize`: how many checks cover those minutes.
- `effectiveStatus`: the status that the newest checks amount to.
-/

namespace UptimeMonitor

/-- The time that the newest checks are to cover, in seconds. -/
def windowSeconds : Nat := 300

/-- How many checks cover the window when one is made every so many seconds: at least one. -/
def windowSize (interval : Nat) : Nat :=
  let every := max interval 1
  -- the quotient is rounded up
  max ((windowSeconds + every - 1) / every) 1

/-- The status that checks amount to, the newest given first. Where they fill the window, it is
down if all in the window are, and degraded if some are; else the newest decides. -/
def effectiveStatus (recent : List Status) (window : Nat) : Option Status :=
  match recent with
  | [] => none
  | newest :: _ =>
    -- too few to tell an outage from a lone failure
    if recent.length < window then some newest
    else
      let sampled := recent.take window
      if sampled.all (· = .down) then some .down
      else if .down ∈ sampled then some .degraded
      else some newest

end UptimeMonitor
