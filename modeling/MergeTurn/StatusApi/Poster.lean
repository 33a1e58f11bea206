import MergeTurn.Json.Decode
import MergeTurn.Json.Printer
import MergeTurn.Status
import MergeTurn.StatusApi.Backoff
import MergeTurn.Text.Quoted
import MergeTurn.Text.Search

set_option autoImplicit false

/-!
# Posting statuses

A status is posted to the route that the webhook named, relative to the root of the service, under
a context that tells it from the statuses of others.

## Main definitions

* `MergeTurn.StatusApi.route` — the route of a status url.
* `MergeTurn.StatusApi.Request` — a request that posts a status.
* `MergeTurn.StatusApi.Response` — what the service answers.
* `MergeTurn.StatusApi.Poster.post?` — posts a status with further attempts.
-/

namespace MergeTurn.StatusApi

open Json (Fault required readRecord readText)

/-! ## Routes -/

/-- The piece of a url that its route begins with. -/
def routeStart : List Char := ['/', 'r', 'e', 'p', 'o', 's', '/']

/-- The route of a status url: all from the first `/repos/` on. -/
def route (url : String) : Except Error String :=
  match Text.suffixFrom? routeStart url.toList with
  | some r => .ok (String.ofList r)
  | none => .error (.permanent ("not a statuses URL: " ++ url))

/-- Whether a character may stand in the path of a route. -/
def isPathChar (c : Char) : Bool :=
  0x21 ≤ c.toNat && c != '<' && c != '>' && c != '\x60'

/-- Whether a character may stand behind the question mark of a route. -/
def isQueryChar (c : Char) : Bool :=
  0x21 ≤ c.toNat && c != '"' && c != '<' && c != '>'

/-- The number of bytes that a route may be long. -/
def routeRoom : Nat := 65534

/-- A route as it is requested: without what follows a number sign, if all before it is well
formed and the whole is not too long. -/
def requested? (route : String) : Option String :=
  let shown := route.toList.takeWhile (· != '#')
  let path := shown.takeWhile (· != '?')
  let query := (shown.dropWhile (· != '?')).drop 1
  if route.utf8ByteSize ≤ routeRoom && path.all isPathChar && query.all isQueryChar then
    some (String.ofList shown)
  else none

/-! ## Requests and responses -/

/-- The number of characters of a description that the service keeps. -/
def descriptionRoom : Nat := 140

/-- A request that posts a status. -/
structure Request where
  route : String
  state : CheckState
  description : String
  targetUrl : Option String
  context : String
deriving DecidableEq, Repr

/-- The method of a request. -/
def Request.method : String := "POST"

/-- The body of a request. -/
def Request.body (r : Request) : Json :=
  Json.object ([("state", Json.text r.state.word), ("description", Json.text r.description)] ++
    (r.targetUrl.map fun url => ("target_url", Json.text url)).toList ++
    [("context", Json.text r.context)])

/-- What becomes of a request. -/
inductive Response where
  | answer (status : Nat) (body : List UInt8)
  /-- There is no answer. -/
  | broken (reason : String)
deriving DecidableEq, Repr

/-- The message in the body of an answer. -/
def readMessage : Json → Except Fault String
  | .obj ms =>
    let message : Json.Field String := required "message" readText
    readRecord [message.slot] (fun row => row.get message) (.obj ms)
  | v => .error (Json.mismatch v)

/-- The outcome of a request: success only for an answer of the two hundreds with a document. An
answer that is no success but has a message keeps its code; any other is only known to be
unreadable. -/
def Response.outcome : Response → Except Error Unit
  | .broken reason => .error (.relay none reason)
  | .answer status body =>
    if 200 ≤ status ∧ status < 300 then
      if Json.isDocument body then .ok () else .error (.relay none "unreadable answer")
    else
      match Json.decode readMessage body with
      | .ok message => .error (.relay (some status) message)
      | .error _ => .error (.relay none "unreadable answer")

/-! ## Posting -/

/-- Who posts statuses: the context of the statuses, and how often a request is made again. -/
structure Poster where
  context : String
  backoff : Backoff

/-- What came of a status that was to be posted. -/
structure Posting where
  result : Except Error Unit
  requests : List Request
  /-- The milliseconds until the result. -/
  elapsed : Nat

namespace Poster

/-- A poster with the usual further attempts. -/
def standard (context : String) : Poster := ⟨context, .standard⟩

/-- The text that shows a poster. -/
def debugText (p : Poster) : String :=
  "GitHubStatusReporter \x7b context: " ++ Text.quoted p.context ++ ", .. \x7d"

/-- The request that posts a report to a route. -/
def request (p : Poster) (route : String) (r : StatusReport) : Request :=
  let description := String.ofList (r.description.toList.take descriptionRoom)
  ⟨route, r.state, description, r.targetUrl, p.context⟩

/-- Posts a report. The service is given by its response to each request. Nothing is requested if
the target has no route, or one that cannot be requested. -/
def post? (p : Poster) (target : StatusTarget) (r : StatusReport) (service : Nat → Response) :
    Option Posting :=
  match route target.statusUrl with
  | .error e => some ⟨.error e, [], 0⟩
  | .ok path =>
    match requested? path with
    | none => some ⟨.error (.relay none "invalid uri"), [], 0⟩
    | some uri =>
      (p.backoff.run? fun n => (service n).outcome).map fun trial =>
        ⟨trial.result, List.replicate trial.calls (p.request uri r), trial.elapsed⟩

end Poster

end MergeTurn.StatusApi
