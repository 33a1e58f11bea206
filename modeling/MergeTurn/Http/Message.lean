import MergeTurn.Json.Printer

set_option autoImplicit false

/-!
# Requests and responses

## Main definitions

* `MergeTurn.Http.Request`, `MergeTurn.Http.Response` — the messages.
* `MergeTurn.Http.Request.header?` — the value of a header.
-/

namespace MergeTurn.Http

/-- A request. Its target is a path with an optional query; headers keep their order. -/
structure Request where
  method : String
  target : String
  headers : List (String × List UInt8)
  body : List UInt8
deriving DecidableEq, Repr

/-- Whether a byte is visible ASCII, a blank or a tab. -/
def isVisible (b : UInt8) : Bool :=
  (0x20 ≤ b && b < 0x7f) || b == 0x09

/-- A text in which letter case does not count. -/
def caseless (s : String) : List Char :=
  s.toList.map Char.toLower

/-- The value of a header, if it is text. Of headers with one name the first counts. -/
def Request.header? (name : String) (r : Request) : Option String :=
  match r.headers.find? fun h => caseless h.1 == caseless name with
  | some (_, bytes) =>
    if bytes.all isVisible then some (String.ofList (bytes.map fun b => Char.ofNat b.toNat))
    else none
  | none => none

/-- The body of a response. -/
inductive Body where
  | empty
  | text (content : String)
  | json (content : Json)
  /-- An event stream, by its number. -/
  | stream (number : Nat)

/-- A response. -/
structure Response where
  status : Nat
  contentType : Option String
  /-- The methods that are allowed, if that is worth telling. -/
  allow : Option String
  body : Body

namespace Response

/-- A response without a body. -/
def bare (status : Nat) : Response := ⟨status, none, none, .empty⟩

/-- A response with a text. -/
def text (status : Nat) (content : String) : Response :=
  ⟨status, some "text/plain; charset=utf-8", none, .text content⟩

/-- A response with a document. -/
def json (status : Nat) (content : Json) : Response :=
  ⟨status, some "application/json", none, .json content⟩

/-- A response that begins an event stream. -/
def stream (number : Nat) : Response :=
  ⟨200, some "text/event-stream", none, .stream number⟩

/-- The response to a method that a path does not have. -/
def notAllowed (methods : List String) : Response :=
  ⟨405, none, some (",".intercalate methods), .empty⟩

/-- A response without what is not sent when only the head is asked for. -/
def headOnly (r : Response) : Response :=
  match r.body with
  | .stream _ => r
  | _ => { r with body := .empty }

end Response

end MergeTurn.Http
