import UptimeMonitor.Notify.Notice

/-!
# Notices for browsers

- `message`: the notice as a browser shows it.
-/

namespace UptimeMonitor.Push

/-- The picture beside the message. -/
def icon : String := "/favicon.png"

/-- The headline. -/
def title (n : Notice) : String :=
  if n.isRecovery then s!"Recovered: {n.monitorName}" else s!"{n.statusCapitals}: {n.monitorName}"

/-- The lines below the headline. What went wrong is told only while it is wrong. -/
def body (n : Notice) : String :=
  let url := match n.url with
    | some u => s!"\nURL: {u}"
    | none => ""
  let error := match n.errorMessage with
    | some e => if n.status = .up then "" else s!"\nError: {e}"
    | none => ""
  s!"Status: {n.statusCapitals}" ++ url ++ error

/-- The notice as a browser shows it. -/
def message (n : Notice) : Json :=
  .object [
    ("title", .string (title n)),
    ("body", .string (body n)),
    ("icon", .string icon),
    ("badge", .string icon),
    ("data", .object [("monitorId", .string n.monitorId), ("status", Notice.statusJson n.status),
      ("url", .string "/")])]

end UptimeMonitor.Push
