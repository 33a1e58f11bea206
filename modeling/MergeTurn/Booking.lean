import MergeTurn.Status
import MergeTurn.Time.Timestamp

set_option autoImplicit false

/-!
# Bookings and pull requests

## Main definitions

* `MergeTurn.Booking` — an entry of a lane.
* `MergeTurn.Pull` — what is known about a pull request.
-/

namespace MergeTurn

/-- An entry of a lane: a pull request, who booked it and when. -/
structure Booking where
  number : PullNumber
  username : String
  bookedAt : Time.Timestamp
deriving DecidableEq

/-- What is known about a pull request from the last webhook about it. -/
structure Pull where
  repo : Repo
  number : PullNumber
  statusUrl : String
  installation : Option InstallationId
  branch : String
  title : String
  author : String
  pageUrl : String
  assignees : List String
  head : CommitId
deriving DecidableEq, Repr

/-- The lane that a pull request belongs to. -/
def Pull.lane (p : Pull) : Lane := p.repo.lane p.branch

/-- The repository and number of a pull request. -/
def Pull.key (p : Pull) : PullKey := ⟨p.repo, p.number⟩

/-- Where the status of a pull request is posted. -/
def Pull.statusTarget (p : Pull) : StatusTarget := ⟨p.installation, p.statusUrl⟩

end MergeTurn
