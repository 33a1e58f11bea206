import MergeTurn.Desk
import MergeTurn.Feed
import MergeTurn.StatusApi.Error

set_option autoImplicit false

/-!
# Clients

The service tells others what happens: it posts statuses, notifies people and shows lanes. Each of
these calls may fail.

## Main definitions

* `MergeTurn.ClientError` — why a call failed.
* `MergeTurn.HandlerError` — why a handler gave up on an event.
* `MergeTurn.Notice` — what people are notified of.
* `MergeTurn.Metric` — what is counted and measured.
* `MergeTurn.Attempt` — a call and its outcome.
-/

namespace MergeTurn

/-- Why a call to a client failed. -/
inductive ClientError where
  | unavailable (reason : String)
  | rejected (reason : String)
  | statusApi (cause : StatusApi.Error)
deriving DecidableEq, Repr

/-- The message of a client's error. -/
def ClientError.message : ClientError → String
  | .unavailable reason => "service unavailable: " ++ reason
  | .rejected reason => "request rejected: " ++ reason
  | .statusApi cause => cause.message

/-- Why a handler gave up on an event. -/
inductive HandlerError where
  | desk (cause : DeskError)
  /-- The desk failed while statuses were being brought up to date. -/
  | labels (cause : DeskError)
  | client (cause : ClientError)
deriving DecidableEq, Repr

/-- The message of a handler's error. -/
def HandlerError.message : HandlerError → String
  | .desk cause => "engine error: " ++ cause.message
  | .labels cause => "status sync error: " ++ cause.message
  | .client cause => "client error: " ++ cause.message

/-- What people are notified of. -/
inductive Notice where
  /-- A pull request is the head of its lane. -/
  | head (lane : Lane) (number : PullNumber) (username : String)
  /-- The checks of a head have ended. -/
  | checks (lane : Lane) (number : PullNumber) (username : String) (state : CheckState)
deriving DecidableEq, Repr

/-- The names and values that a metric is filed under. -/
abbrev Tags := List (String × String)

/-- What is counted and measured. -/
inductive Metric where
  | counter (name : String) (tags : Tags)
  | gauge (name : String) (value : Nat) (tags : Tags)
deriving DecidableEq, Repr

/-- A call to a client, and its error if it failed. -/
structure Attempt (α : Type) where
  call : α
  error : Option ClientError
deriving DecidableEq, Repr

/-- The calls that succeeded. -/
def delivered {α : Type} (attempts : List (Attempt α)) : List α :=
  attempts.filterMap fun a => if a.error.isNone then some a.call else none

end MergeTurn
