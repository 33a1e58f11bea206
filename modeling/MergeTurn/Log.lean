import MergeTurn.Client
import MergeTurn.Text.Double
import MergeTurn.Text.Quoted

set_option autoImplicit false

/-!
# Clients that only log

Where there is nobody to call, calls to clients are logged.

## Main definitions

* `MergeTurn.Log.Entry` — an entry of the log.
* `MergeTurn.Log.ofReport`, `ofNotice`, `ofMetric` — the entries of calls.
-/

namespace MergeTurn.Log

/-- How important an entry is. -/
inductive Level where
  | info
  | debug
deriving DecidableEq, Repr

/-- The word for a level. -/
def Level.word : Level → String
  | .info => "INFO"
  | .debug => "DEBUG"

/-- An entry of the log: its level, where it comes from, and its fields, the message among them. -/
structure Entry where
  level : Level
  source : String
  fields : List (String × String)
deriving DecidableEq, Repr

/-- Where the entries of reports and notices come from. -/
def clientSource : String := "merge_queue::clients::logging"

/-- Where the entries of metrics come from. -/
def metricSource : String := "merge_queue::metrics"

/-- The entry of a status that would have been posted. -/
def ofReport (t : StatusTarget) (r : StatusReport) : Entry :=
  ⟨.info, clientSource, [("message", "Status report (not sent)"), ("status_url", t.statusUrl),
    ("state", r.state.word), ("description", r.description)]⟩

/-- The entry of somebody who would have been notified. -/
def ofNotice : Notice → Entry
  | .head lane n username =>
    ⟨.info, clientSource, [("message", "Notification: first in queue"), ("queue", lane.toText),
      ("pr", n.toText), ("username", username)]⟩
  | .checks lane n username state =>
    ⟨.info, clientSource, [("message", "Notification: checks completed"), ("queue", lane.toText),
      ("pr", n.toText), ("username", username), ("state", state.word)]⟩

/-- The text of the names that a metric is filed under. -/
def tagsText (tags : Tags) : String :=
  "[" ++ ", ".intercalate (tags.map fun (k, v) =>
    "(" ++ Text.quoted k ++ ", " ++ Text.quoted v ++ ")") ++ "]"

/-- The entry of a metric. -/
def ofMetric : Metric → Entry
  | .counter name tags =>
    ⟨.debug, metricSource, [("message", "counter +1"), ("metric", name), ("tags", tagsText tags)]⟩
  | .gauge name value tags =>
    ⟨.debug, metricSource, [("message", "gauge"), ("metric", name),
      ("value", Text.doubleText value), ("tags", tagsText tags)]⟩

end MergeTurn.Log
