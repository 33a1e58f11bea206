import MergeTurn.Names

set_option autoImplicit false

/-!
# Commit statuses

A commit status tells a repository whether a commit may be merged, with a line of explanation.
Every pull request in a lane carries one that shows its place.

## Main definitions

* `MergeTurn.CheckState` — the states of a status.
* `MergeTurn.StatusReport` — a status to post.
* `MergeTurn.StatusTarget` — where a status is posted.
* `MergeTurn.placeLabel` — the status of a pull request at a place of its lane.
* `MergeTurn.mergedLabel` — the status of a merged pull request.
-/

namespace MergeTurn

/-- The states of a commit status. -/
inductive CheckState where
  | success
  | failure
  | pending
  | error
deriving DecidableEq, Repr

/-- The word for a state. -/
def CheckState.word : CheckState → String
  | .success => "success"
  | .failure => "failure"
  | .pending => "pending"
  | .error => "error"

/-- The states by their words. -/
def CheckState.words : List (String × CheckState) :=
  [.success, .failure, .pending, .error].map fun s => (s.word, s)

/-- Whether a state is final: the checks behind it have ended. -/
def CheckState.isFinal (s : CheckState) : Bool :=
  s != .pending

/-- A status to post: its state, a line of explanation and a page with more. -/
structure StatusReport where
  state : CheckState
  description : String
  targetUrl : Option String
deriving DecidableEq, Repr

/-- Where a status is posted, and on behalf of which installation. -/
structure StatusTarget where
  installation : Option InstallationId
  statusUrl : String
deriving DecidableEq, Repr

/-- A report without a page. -/
def StatusReport.plain (state : CheckState) (description : String) : StatusReport :=
  ⟨state, description, none⟩

/-- A report with a page. -/
def StatusReport.withTarget (r : StatusReport) (url : String) : StatusReport :=
  { r with targetUrl := some url }

/-- The last place that is shown as a number. All places behind it look the same. -/
def lastShownPlace : Nat := 5

/-- The status of a pull request at a place of its lane, counted from zero, or of one that is not
in the lane. Only the first may be merged. -/
def placeLabel : Option Nat → StatusReport
  | none => .plain .failure "Book to merge"
  | some 0 => .plain .success "It's your turn"
  | some 1 => .plain .failure "1 PR before you"
  | some n =>
    if n ≤ lastShownPlace then .plain .failure (toString n ++ " PRs before you")
    else .plain .failure ("More than " ++ toString lastShownPlace ++ " PRs before you")

/-- The status of a pull request that somebody has merged. -/
def mergedLabel (merger : String) : StatusReport :=
  .plain .success ("Merged by " ++ merger)

end MergeTurn
