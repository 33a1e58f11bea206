import MergeTurn.Text.Fold

set_option autoImplicit false

/-!
# Errors of the status service

A call of the status service can fail for a reason that may pass, such as too many requests or a
broken connection, or for one that will not. Only the first kind is worth another attempt.

## Main definitions

* `MergeTurn.StatusApi.ErrorKind` — whether another attempt may help.
* `MergeTurn.StatusApi.classify` — the kind of an error, by its code and message.
* `MergeTurn.StatusApi.Error` — a failed call.
-/

namespace MergeTurn.StatusApi

/-- Whether another attempt may help. -/
inductive ErrorKind where
  | transient
  | permanent
deriving DecidableEq, Repr

/-- Whether a call that failed in this way is worth another attempt. -/
def ErrorKind.isRetriable : ErrorKind → Bool
  | .transient => true
  | .permanent => false

/-- The word for a kind of error. -/
def ErrorKind.word : ErrorKind → String
  | .transient => "Transient"
  | .permanent => "Permanent"

/-- Whether a message speaks of a limit on requests. -/
def speaksOfLimit (message : String) : Bool :=
  ["rate limit", "abuse detection"].any (Text.mentions message)

/-- Whether a message speaks of the network. -/
def speaksOfNetwork (message : String) : Bool :=
  ["timeout", "timed out", "connection", "network", "dns"].any (Text.mentions message)

/-- The kind of an error, by its code if it has one, and else by its message. -/
def classify : Option Nat → String → ErrorKind
  | some code, message =>
    if code = 429 then .transient
    else if code = 403 then if speaksOfLimit message then .transient else .permanent
    else if 500 ≤ code ∧ code < 600 then .transient
    else .permanent
  | none, message => if speaksOfNetwork message then .transient else .permanent

/-- A failed call, with the code that the service answered with, if it did. -/
structure Error where
  kind : ErrorKind
  code : Option Nat
  detail : String
  /-- Whether the detail is in the words of somebody else. -/
  relayed : Bool
deriving DecidableEq, Repr

namespace Error

/-- An error without a code that may pass. -/
def transient (detail : String) : Error := ⟨.transient, none, detail, false⟩

/-- An error without a code that will not pass. -/
def permanent (detail : String) : Error := ⟨.permanent, none, detail, false⟩

/-- An error of the kind that its code and message suggest, in the words of somebody else. -/
def relay (code : Option Nat) (detail : String) : Error :=
  ⟨classify code detail, code, detail, true⟩

/-- Whether the call is worth another attempt. -/
def isRetriable (e : Error) : Bool := e.kind.isRetriable

/-- The message of an error. -/
def message (e : Error) : String :=
  match e.code with
  | some code => "GitHub API error (HTTP " ++ toString code ++ "): " ++ e.detail
  | none => "GitHub API error: " ++ e.detail

end Error

end MergeTurn.StatusApi
