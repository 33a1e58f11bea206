import MergeTurn.Proofs.Desk.Replay
import MergeTurn.Service.Calls
import MergeTurn.Service.Tasks

set_option autoImplicit false

/-!
# Bookings and removals by hand

The shortest runs of the service are made of bookings, removals and tasks. Tasks run in the order in
which they came about, but there may be any number of requests before each of them.

## Main definitions

* `MergeTurn.Service.request` — booking and unbooking by hand.
* `MergeTurn.Service.Step`, `MergeTurn.Service.play` — requests and tasks one after the other.
* `MergeTurn.Service.rounds` — requests one after the other, with all tasks run after each.
-/

namespace MergeTurn.Service

/-- The service after a booking or a removal by hand, whatever it answers. -/
def request {σ : Type} [Store σ] : Desk.Request → Service σ → Service σ
  | .book l b, s => (s.book l b).2
  | .unbook l n closed, s => (s.unbook l n closed).2

/-- A request is a turn of the desk, with what it publishes. -/
lemma request_eq (r : Desk.Request) (s : Service Memory) :
    s.request r = { s with store := (Desk.serve r s.store).store }.publishAll
      (Desk.serve r s.store).published := by
  cases r <;> rfl

/-- Publishing changes leaves the store alone. -/
lemma store_publishAll (es : List LaneEvent) (s : Service Memory) :
    (s.publishAll es).store = s.store := by
  induction es generalizing s with
  | nil => rfl
  | cons e es ih => exact ih (s.publish (.lane e))

/-- The store after a request is the one that the desk leaves. -/
lemma store_request (r : Desk.Request) (s : Service Memory) :
    (s.request r).store = (Desk.serve r s.store).store := by
  rw [request_eq, store_publishAll]

/-- The desk keeps a store that serves serving. -/
lemma serving_serve {m : Memory} (h : m.Serving) (r : Desk.Request) :
    (Desk.serve r m).store.Serving := by
  cases r with
  | book l b =>
    have hends := Desk.book_ends (Memory.atomic Memory.keeps_serving) h l b
    simp only [Desk.serve]
    generalize Desk.book l b m = turn at hends ⊢
    cases hends with
    | invalid => exact h
    | failed _ ht => exact ht
    | stranded _ ht => exact ht
    | duplicate _ ht => exact ht
    | added _ ht => exact ht
  | unbook l n closed =>
    have hends := Desk.unbook_ends (Memory.atomic Memory.keeps_serving) h l n closed
    simp only [Desk.serve]
    generalize Desk.unbook l n closed m = turn at hends ⊢
    cases hends with
    | failed _ ht => exact ht
    | halfway _ ht => exact ht
    | notBooked _ ht => exact ht
    | removed _ ht => exact ht

/-- A step of a run: a request, or the next task. -/
inductive Step where
  | request (r : Desk.Request)
  | task
deriving DecidableEq

/-- A request of a step is about a lane of a repository without colons. -/
def Step.Colonless : Step → Prop
  | .request r => r.lane.repo.Colonless
  | .task => True

instance : DecidablePred Step.Colonless
  | .request r => inferInstanceAs (Decidable r.lane.repo.Colonless)
  | .task => inferInstanceAs (Decidable True)

variable {σ : Type} [Store σ]

/-- The service after a step. -/
def step : Step → Service σ → Service σ
  | .request r, s => s.request r
  | .task, s => s.runNext

/-- The service after steps, one after the other. -/
def play (steps : List Step) (s : Service σ) : Service σ :=
  steps.foldl (fun s x => s.step x) s

/-- The service after requests, one after the other, with all tasks run after each. -/
def rounds (rs : List Desk.Request) (s : Service σ) : Service σ :=
  rs.foldl (fun s r => (s.request r).settle) s

/-- A run goes on where its beginning ended. -/
lemma play_append (steps more : List Step) (s : Service σ) :
    play (steps ++ more) s = play more (play steps s) :=
  List.foldl_append ..

end MergeTurn.Service
