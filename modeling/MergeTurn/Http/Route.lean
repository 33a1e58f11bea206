import MergeTurn.Http.Message
import MergeTurn.Json.Reader

set_option autoImplicit false

/-!
# Routes

A path is divided at its slashes before anything in it is decoded, so a slash that is written with
a percent sign does not divide it.

## Main definitions

* `MergeTurn.Http.percentDecode` — the bytes that a piece of a path stands for.
* `MergeTurn.Http.Route` — the places that a path can lead to.
* `MergeTurn.Http.Route.ofTarget?` — the place that a target leads to.
* `MergeTurn.Http.Route.methods` — the methods that a place has.
-/

namespace MergeTurn.Http

/-- The bytes that a piece of a path stands for: a percent sign and two hexadecimal digits are a
byte, and all else stands for itself. -/
def percentDecode : List UInt8 → List UInt8
  | [] => []
  | [a] => [a]
  | [a, b] => [a, b]
  | a :: b :: c :: r =>
    if a = 0x25 then
      match Text.digitValue? (Char.ofNat b.toNat), Text.digitValue? (Char.ofNat c.toNat) with
      | some h, some l => UInt8.ofNat (16 * h + l) :: percentDecode r
      | _, _ => a :: percentDecode (b :: c :: r)
    else a :: percentDecode (b :: c :: r)

/-- The text that a piece of a path stands for, if it stands for text. -/
def decodePiece? (piece : List Char) : Option String :=
  Json.utf8? (percentDecode (Json.utf8 (String.ofList piece)))

/-- The pieces between the slashes of a text. -/
def piecesAt : List Char → List (List Char)
  | [] => [[]]
  | c :: r =>
    if c = '/' then [] :: piecesAt r
    else match piecesAt r with
      | p :: ps => (c :: p) :: ps
      | [] => [[c]]

/-- The places that a path can lead to, with the pieces of the path that name a lane. -/
inductive Route where
  | health
  | webhook
  | lane (owner repo branch : List Char)
  | events (owner repo branch : List Char)
  | booking (owner repo branch number : List Char)
deriving DecidableEq, Repr

namespace Route

/-- The place that the pieces of a path lead to. The last piece may not be empty. -/
def ofPieces? : List (List Char) → Option Route
  | [a] =>
    if a = "health".toList then some .health
    else if a = "webhook".toList then some .webhook
    else none
  | a :: b :: c :: rest =>
    if a = "api".toList ∧ b = "v1".toList ∧ c = "queues".toList then
      match rest with
      | [owner, repo, branch] => if branch.isEmpty then none else some (.lane owner repo branch)
      | [owner, repo, branch, last] =>
        if last = "events".toList then some (.events owner repo branch)
        else if last.isEmpty then none
        else some (.booking owner repo branch last)
      | _ => none
    else none
  | _ => none

/-- The place that a target leads to. What follows the path does not count. -/
def ofTarget? (target : String) : Option Route :=
  match piecesAt (target.toList.takeWhile fun c => c != '?' && c != '#') with
  | [] :: pieces => ofPieces? pieces
  | _ => none

/-- The methods that a place has. -/
def methods : Route → List String
  | .health => ["GET", "HEAD"]
  | .webhook => ["POST"]
  | .lane .. => ["GET", "HEAD", "POST"]
  | .events .. => ["GET", "HEAD"]
  | .booking .. => ["DELETE"]

example : ofTarget? "/health?x=1" = some .health ∧ ofTarget? "/health/" = none ∧
    ofTarget? "/api/v1/queues///m" = some (.lane [] [] ['m']) ∧
    ofTarget? "/api/v1/queues///" = none := by decide +kernel

end Route

end MergeTurn.Http
