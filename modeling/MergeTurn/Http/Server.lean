import MergeTurn.Http.MediaType
import MergeTurn.Http.Route
import MergeTurn.Http.Stream
import MergeTurn.Service.Tasks
import MergeTurn.Text.Decimal
import MergeTurn.Webhook.Endpoint

set_option autoImplicit false

/-!
# The server

What can be asked of the service from outside: webhooks are received, lanes are listed and watched,
and pull requests are booked and taken out by hand.

## Main definitions

* `MergeTurn.Http.ApiError` — why a request about a lane is refused.
* `MergeTurn.Http.Server` — the service with its secret and its streams.
* `MergeTurn.Http.Server.respond` — the response to a request.
* `MergeTurn.Http.Server.poll` — the frames of a stream.

## Design

A request is refused for its path, then for its method, then for the names in its path, then for
its body, and only then by the desk. A body is measured before anything in it is believed, so a
webhook that is too long is refused whatever its signature.
-/

namespace MergeTurn.Http

open Json (Fault readRecord)

/-- Why a request about a lane is refused. -/
inductive ApiError where
  | notBooked (lane : Lane) (number : PullNumber)
  | desk (cause : DeskError)
deriving DecidableEq, Repr

namespace ApiError

/-- The message for a request that is refused. -/
def message : ApiError → String
  | .notBooked lane n => "pull request " ++ n.toText ++ " is not queued on " ++ lane.toText
  | .desk cause => cause.message

/-- The status of the response to a request that is refused. -/
def status : ApiError → Nat
  | .notBooked .. => 404
  | .desk (.invalid _) => 400
  | .desk (.store cause) => if cause.isUnavailable then 503 else 500

/-- The response to a request that is refused. -/
def response (e : ApiError) : Response := .text e.status e.message

end ApiError

/-- The service with its secret and its streams. -/
structure Server (σ : Type) where
  service : Service σ
  secret : List UInt8
  streams : List Stream

/-! ## Names in paths -/

/-- A piece of a path as text, or the response to one that is none. -/
def decodeName (name : String) (piece : List Char) : Except Response String :=
  match decodePiece? piece with
  | some s => .ok s
  | none => .error (.text 400 ("Invalid URL: Invalid UTF-8 in \x60" ++ name ++ "\x60"))

/-- The lane that three pieces of a path name. -/
def decodeLane (owner repo branch : List Char) : Except Response Lane := do
  let owner ← decodeName "owner" owner
  let repo ← decodeName "repo" repo
  let branch ← decodeName "branch" branch
  return ⟨⟨owner, repo⟩, branch⟩

/-- The pull request that a piece of a path names. -/
def decodeNumber (piece : List Char) : Except Response PullNumber := do
  let s ← decodeName "number" piece
  match Text.word? UInt64.size s with
  | some n => return ⟨UInt64.ofNat n⟩
  | none => throw (.text 400 ("Invalid URL: Cannot parse value at index 3 with value \x60" ++ s ++
      "\x60 to a \x60u64\x60"))

/-! ## Bodies -/

/-- The most bytes that the body of a request may have. -/
def bodyLimit : Nat := 2 * 1024 * 1024

/-- The body of a request, or the response to one that is too long. -/
def readBody (r : Request) : Except Response (List UInt8) :=
  if r.body.length ≤ bodyLimit then .ok r.body
  else .error (.text 413 "Failed to buffer the request body: length limit exceeded")

/-- The number and name in the body of a booking. -/
def readBookRequest : Json → Except Fault (PullNumber × String) :=
  readRecord [Wire.numberField.slot, Wire.usernameField.slot] fun row => do
    return (← row.get Wire.numberField, ← row.get Wire.usernameField)

/-- The document in the body of a request, or the response to a body that is not what was asked
for. -/
def decodeBody {α : Type} (read : Json → Except Fault α) (r : Request) : Except Response α := do
  if !((r.header? "content-type").map isJsonType).getD false then
    throw (.text 415 "Expected request with \x60Content-Type: application/json\x60")
  match Json.decode read (← readBody r) with
  | .ok a => return a
  | .error .notJson => throw (.text 400 "Failed to parse the request body as JSON: not JSON")
  | .error .wrongShape =>
    throw (.text 422
      "Failed to deserialize the JSON body into the target type: not what was asked for")

/-- The document that lists a lane. -/
def listing (lane : Lane) (bs : List Booking) : Json :=
  Json.object [("queue", Json.text lane.toText), ("length", Json.nat bs.length),
    ("items", Json.array Wire.encodeBooking bs)]

/-- The response to a booking. -/
def bookResponse : BookOutcome → Response
  | .added place =>
    .json 201 (Json.object [("status", Json.text "added"), ("index", Json.nat place)])
  | .duplicate => .json 200 (Json.object [("status", Json.text "duplicate")])

/-- The response to a removal. -/
def unbookResponse (lane : Lane) (n : PullNumber) : UnbookOutcome → Response
  | .removed b _ =>
    .json 200 (Json.object [("status", Json.text "removed"), ("item", Wire.encodeBooking b)])
  | .notBooked => (ApiError.notBooked lane n).response

/-! ## Handling -/

namespace Server

variable {σ : Type}

/-- The server with another service. -/
def withService (s : Server σ) (service : Service σ) : Server σ := { s with service }

/-- The response to an answer of the service. -/
def answer {α : Type} (s : Server σ) (ok : α → Response) (call : Except DeskError α × Service σ) :
    Response × Server σ :=
  match call with
  | (.error e, service) => ((ApiError.desk e).response, s.withService service)
  | (.ok a, service) => (ok a, s.withService service)

/-- The response to something that could not be read, or else what follows from it. -/
def withDecoded {α : Type} (s : Server σ) (decoded : Except Response α)
    (next : α → Response × Server σ) : Response × Server σ :=
  match decoded with
  | .error response => (response, s)
  | .ok a => next a

variable [Store σ]

/-- Lists a lane. -/
def list (lane : Lane) (s : Server σ) : Response × Server σ :=
  s.answer (fun bs => .json 200 (listing lane bs)) (s.service.atDesk (Desk.bookings lane))

/-- Books a pull request. -/
def book (lane : Lane) (n : PullNumber) (username : String) (clock : Time.Timestamp)
    (s : Server σ) : Response × Server σ :=
  s.answer bookResponse (s.service.book lane ⟨n, username, clock⟩)

/-- Takes a pull request out of a lane. It stays open. -/
def unbook (lane : Lane) (n : PullNumber) (s : Server σ) : Response × Server σ :=
  s.answer (unbookResponse lane n) (s.service.unbook lane n false)

/-- Begins a stream. It receives snapshots before the lane is read, so that no change falls between
the two. When only the head is asked for, it ends at once. -/
def watch (lane : Lane) (headOnly : Bool) (s : Server σ) : Response × Server σ :=
  let receiver := s.service.feed.receivers.length
  let service := { s.service with feed := s.service.feed.subscribe }
  let leave (service : Service σ) : Service σ :=
    { service with feed := service.feed.leave receiver }
  match service.atDesk (Desk.bookings lane) with
  | (.error e, service) => ((ApiError.desk e).response, s.withService (leave service))
  | (.ok bs, service) =>
    let stream : Stream := ⟨lane, some receiver, [⟨lane, bs⟩], service.now, headOnly⟩
    (.stream s.streams.length,
      { s with
        service := if headOnly then leave service else service
        streams := s.streams ++ [stream] })

/-- Receives a webhook. -/
def receive (r : Request) (clock : Time.Timestamp) (s : Server σ) : Response × Server σ :=
  s.withDecoded (readBody r) fun body =>
    match Webhook.receive s.secret (r.header? Webhook.signatureHeader)
        (r.header? Webhook.kindHeader) body clock s.service with
    | (.error e, service) => (.text e.status e.message, s.withService service)
    | (.ok .applied, service) => (.text 200 "OK", s.withService service)
    | (.ok .passedOver, service) => (.text 202 "Ignored", s.withService service)

/-- The response of a place to a method that it has. -/
def visit (route : Route) (r : Request) (clock : Time.Timestamp) (s : Server σ) :
    Response × Server σ :=
  match route with
  | .health => (.text 200 "OK", s)
  | .webhook => s.receive r clock
  | .lane owner repo branch =>
    s.withDecoded (decodeLane owner repo branch) fun lane =>
      if r.method = "POST" then
        s.withDecoded (decodeBody readBookRequest r) fun (n, username) =>
          s.book lane n username clock
      else s.list lane
  | .events owner repo branch =>
    s.withDecoded (decodeLane owner repo branch) fun lane => s.watch lane (r.method == "HEAD")
  | .booking owner repo branch number =>
    s.withDecoded (decodeLane owner repo branch) fun lane =>
      s.withDecoded (decodeNumber number) fun n => s.unbook lane n

/-- The response to a request at a time. -/
def respond (r : Request) (clock : Time.Timestamp) (s : Server σ) : Response × Server σ :=
  match Route.ofTarget? r.target with
  | none => (.bare 404, s)
  | some route =>
    if r.method ∈ route.methods then
      let (response, s) := s.visit route r clock
      (if r.method = "HEAD" then response.headOnly else response, s)
    else (.notAllowed route.methods, s)

omit [Store σ] in
/-- The frames of a stream that are ready, unless it has ended or there is none of that number. -/
def poll (number : Nat) (s : Server σ) : Option (List Frame) × Server σ :=
  match s.streams[number]? with
  | none => (none, s)
  | some stream =>
    let (frames, stream, feed) := stream.poll s.service.now s.service.feed
    (frames, { s with
      service := { s.service with feed }
      streams := s.streams.set number stream })

omit [Store σ] in
/-- The server with a service that was started anew. Streams of the former one get no more than
what was there for them. -/
def restarted (service : Service σ) (s : Server σ) : Server σ :=
  ⟨service, s.secret, s.streams.map (·.detach s.service.feed)⟩

end Server

end MergeTurn.Http
