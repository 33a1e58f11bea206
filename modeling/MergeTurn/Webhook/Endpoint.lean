import MergeTurn.Webhook.Payload
import MergeTurn.Webhook.Signature

set_option autoImplicit false

/-!
# Receiving webhooks

A webhook is believed only when its signature is right, so that comes first. What it tells is then
done at once.

## Main definitions

* `MergeTurn.Webhook.ReceiveError` — why a webhook is not accepted.
* `MergeTurn.Webhook.apply` — does what an event tells.
* `MergeTurn.Webhook.receive` — accepts a webhook.
-/

namespace MergeTurn.Webhook

/-- The header that names the kind of a webhook. -/
def kindHeader : String := "x-github-event"

/-- The header that names a delivery. -/
def deliveryHeader : String := "x-github-delivery"

/-- The header that holds the signature. -/
def signatureHeader : String := "x-hub-signature-256"

/-- Why a webhook is not accepted. -/
inductive ReceiveError where
  | missingHeader (name : String)
  | signature (cause : SignatureError)
  | payload (cause : PayloadError)
  | desk (cause : DeskError)
deriving DecidableEq, Repr

namespace ReceiveError

/-- The message for a webhook that is not accepted. -/
def message : ReceiveError → String
  | .missingHeader name => "missing required header: " ++ name
  | .signature cause => "invalid signature: " ++ cause.message
  | .payload cause => "invalid payload: " ++ cause.message
  | .desk cause => cause.message

/-- The status of the response to a webhook that is not accepted. -/
def status : ReceiveError → Nat
  | .missingHeader name => if name = signatureHeader then 401 else 400
  | .signature _ => 401
  | .payload _ => 400
  | .desk cause => if cause.isUnavailable then 503 else 500

end ReceiveError

/-- What became of a webhook that was accepted. -/
inductive Receipt where
  | applied
  | passedOver
deriving DecidableEq, Repr

variable {σ : Type} [Store σ]

/-- An answer of which only the errors matter. -/
def only {α β : Type} (answer : Except DeskError α × β) : Except DeskError Unit × β :=
  (answer.1.map fun _ => (), answer.2)

/-- Does what an event tells, at a time. -/
def apply (e : Event) (clock : Time.Timestamp) (s : Service σ) :
    Except DeskError Unit × Service σ :=
  match e with
  | .pull .opened p => only (s.opened p clock)
  | .pull .reopened p => only (s.opened p clock)
  | .pull .synchronized p => only (s.updated p)
  | .pull (.closed closing) p => only (s.closed p closing)
  | .check change => only (s.checkChanged change)
  | .ping => (.ok (), s)

/-- The kind and payload of a webhook whose signature is right. -/
def authenticate (secret : List UInt8) (signature kind : Option String) (body : List UInt8) :
    Except ReceiveError String :=
  match signature with
  | none => .error (.missingHeader signatureHeader)
  | some header =>
    match verify body header secret with
    | .error e => .error (.signature e)
    | .ok () =>
      match kind with
      | none => .error (.missingHeader kindHeader)
      | some kind => .ok kind

/-- Accepts a webhook with its headers, as far as they are text, and its body. -/
def receive (secret : List UInt8) (signature kind : Option String) (body : List UInt8)
    (clock : Time.Timestamp) (s : Service σ) : Except ReceiveError Receipt × Service σ :=
  match authenticate secret signature kind body with
  | .error e => (.error e, s)
  | .ok kind =>
    match parse kind body with
    | .error e => (.error (.payload e), s)
    | .ok none => (.ok .passedOver, s)
    | .ok (some e) =>
      match apply e clock s with
      | (.error e, s) => (.error (.desk e), s)
      | (.ok (), s) => (.ok .applied, s)

end MergeTurn.Webhook
