import Mathlib.Data.List.DropRight
import MergeTurn.Http.Server
import MergeTurn.Proofs.Feed
import MergeTurn.Proofs.Service.Showings

set_option autoImplicit false

/-!
# Streams that are read step by step

A stream begins in two steps, and anything may happen in between: somebody joins the feed, and then
the lane is read. Afterwards the stream asks for one thing at a time, whenever its client is ready,
and sends on what is of its own lane. Watching a lane is both steps at once, and polling a stream is
asking until there is nothing left.

## Main definitions

* `MergeTurn.Http.Stream.read`, `MergeTurn.Http.Server.read` — a stream asks for one thing.
* `MergeTurn.Http.Server.join`, `MergeTurn.Http.Server.enter` — how a stream begins.
* `MergeTurn.Http.Server.Move`, `MergeTurn.Http.Server.run` — what can happen while there are
  streams.
* `MergeTurn.Http.Server.Sight`, `MergeTurn.Http.Server.sights` — what a stream meets in the feed.

## Main results

* `MergeTurn.Http.Stream.take_eq_reads` — polling is asking often enough.
* `MergeTurn.Http.Server.watch_eq` — watching is joining and entering at once.
-/

namespace MergeTurn

/-- What a stream of a lane sends of a thing that it has got. -/
def Received.ofLane (l : Lane) : Received → List LaneSnapshot
  | .snapshot x => if x.lane = l then [x] else []
  | _ => []

namespace Http

/-! ## Asking for one thing -/

namespace Stream

/-- A stream asks for one thing: the next one that is waiting for it, or else the next one that the
feed has for it. -/
def read (s : Stream) (f : Feed) : Received × Stream × Feed :=
  match s.waiting with
  | x :: rest => (.snapshot x, { s with waiting := rest }, f)
  | [] =>
    match s.receiver.bind fun r => f.receive r with
    | some (x, f) => (x, s, f)
    | none => (.nothing, s, f)

/-- What is waiting for a stream comes first. -/
lemma read_of_waiting {s : Stream} {x : LaneSnapshot} {rest : List LaneSnapshot}
    (h : s.waiting = x :: rest) (f : Feed) :
    s.read f = (.snapshot x, { s with waiting := rest }, f) := by
  simp only [read, h]

/-- If nothing is waiting for it, a stream gets what the feed has for it. -/
lemma read_of_empty {s : Stream} (h : s.waiting = []) {r : Nat} (hr : s.receiver = some r)
    (f : Feed) :
    s.read f =
      match f.receive r with
      | some (x, f) => (x, s, f)
      | none => (.nothing, s, f) := by
  simp only [read, h, hr, Option.bind_some]

/-- A stream stays the receiver that it is. -/
@[simp] lemma receiver_read (s : Stream) (f : Feed) : (s.read f).2.1.receiver = s.receiver := by
  unfold read
  split
  · rfl
  · split <;> rfl

/-- What one stream asks for changes nothing for another receiver. -/
lemma awaits_read {s : Stream} {f : Feed} {r : Nat} {ahead : List LaneSnapshot}
    (h : f.Awaits r ahead) (hs : s.receiver ≠ some r) : (s.read f).2.2.Awaits r ahead := by
  unfold read
  split
  · exact h
  · split
    · next x g hnext =>
      obtain ⟨r', hr', hreceive⟩ := Option.bind_eq_some_iff.1 hnext
      exact h.receive_other (fun he => hs (he ▸ hr')) hreceive
    · exact h

/-- What a stream asks for changes only how far it has come. -/
lemma read_writes (s : Stream) (f : Feed) :
    ∃ receivers, receivers.length = f.receivers.length ∧
      (s.read f).2.2 = { f with receivers } := by
  unfold read
  split
  · exact ⟨_, rfl, rfl⟩
  · split
    · next x g hnext =>
      obtain ⟨r, -, hreceive⟩ := Option.bind_eq_some_iff.1 hnext
      obtain ⟨next, rfl⟩ := Feed.receive_writes hreceive
      exact ⟨_, by simp, rfl⟩
    · exact ⟨_, rfl, rfl⟩

/-- A stream asks a number of times. These are the snapshots that it sends. -/
def reads : Nat → Stream → Feed → List LaneSnapshot × Stream × Feed
  | 0, s, f => ([], s, f)
  | n + 1, s, f =>
    let (x, t, g) := s.read f
    let (rest, left) := reads n t g
    (x.ofLane s.lane ++ rest, left)

/-- Whoever has got all there is gets no more by asking again. -/
lemma reads_of_nothing {s : Stream} {f : Feed} (h : s.read f = (.nothing, s, f)) (n : Nat) :
    s.reads n f = ([], s, f) := by
  induction n with
  | zero => rfl
  | succ n ih =>
    rw [reads, h]
    dsimp only
    rw [ih]
    rfl

/-- Asking the feed a number of times is catching up with it. -/
lemma reads_of_empty {s : Stream} (hwaiting : s.waiting = []) {r : Nat}
    (hreceiver : s.receiver = some r) (n : Nat) (f : Feed) :
    s.reads n f = (((f.catchUp r n).1.filter (·.lane == s.lane)), s, (f.catchUp r n).2) := by
  induction n generalizing f with
  | zero => rfl
  | succ n ih =>
    have hread := read_of_empty hwaiting hreceiver f
    unfold Feed.catchUp
    rcases hnext : f.receive r with _ | ⟨x | lost | _, g⟩
    all_goals rw [hnext] at hread
    · exact reads_of_nothing hread (n + 1)
    · rw [reads, hread]
      dsimp only
      rw [ih, List.filter_cons]
      by_cases hx : x.lane = s.lane <;> simp [Received.ofLane, hx]
    · rw [reads, hread]
      dsimp only
      rw [ih]
      rfl
    · obtain rfl := Feed.eq_of_receive_nothing hnext
      exact reads_of_nothing hread (n + 1)

/-- A stream that asks often enough gets first what is waiting for it. -/
lemma reads_waiting {s : Stream} (hlane : ∀ x ∈ s.waiting, x.lane = s.lane) (n : Nat) (f : Feed) :
    s.reads (s.waiting.length + n) f =
      (s.waiting ++ ({ s with waiting := [] }.reads n f).1,
        ({ s with waiting := [] }.reads n f).2) := by
  induction hwaiting : s.waiting generalizing s with
  | nil =>
    have hs : { s with waiting := [] } = s := by rw [← hwaiting]
    rw [hs, List.length_nil, Nat.zero_add, List.nil_append]
  | cons x rest ih =>
    rw [hwaiting] at hlane
    have hrest := ih (s := { s with waiting := rest })
      (fun y hy => hlane y (List.mem_cons_of_mem x hy)) rfl
    rw [List.length_cons, Nat.add_right_comm, reads, read_of_waiting hwaiting]
    dsimp only at hrest ⊢
    rw [hrest, Received.ofLane, if_pos (hlane x List.mem_cons_self)]
    rfl

/-- Polling a stream is asking often enough, until there is nothing left to be got. -/
theorem take_eq_reads {s : Stream} (hlane : ∀ x ∈ s.waiting, x.lane = s.lane) (f : Feed) :
    s.take f = s.reads (s.waiting.length + (f.kept.length + 2)) f := by
  rw [reads_waiting hlane]
  rcases Option.eq_none_or_eq_some s.receiver with hreceiver | ⟨r, hreceiver⟩
  · have hnothing : { s with waiting := [] }.read f = (.nothing, { s with waiting := [] }, f) := by
      simp only [read, hreceiver, Option.bind_none]
    rw [reads_of_nothing hnothing, List.append_nil, take, hreceiver]
  · rw [reads_of_empty (s := { s with waiting := [] }) rfl hreceiver, take, hreceiver]

end Stream

namespace Server

section Requests

variable {σ : Type} [Store σ]

/-- Somebody who wants to watch a lane joins the feed. -/
def join (s : Server σ) : Server σ :=
  s.withService { s.service with feed := s.service.feed.subscribe }

/-- Somebody who has joined the feed gets a stream, in which the lane comes first as it is now. -/
def enter (lane : Lane) (receiver : Nat) (s : Server σ) : Response × Server σ :=
  match s.service.atDesk (Desk.bookings lane) with
  | (.error e, service) =>
    ((ApiError.desk e).response, s.withService { service with feed := service.feed.leave receiver })
  | (.ok bs, service) =>
    (.stream s.streams.length,
      { s with
        service
        streams := s.streams ++ [⟨lane, some receiver, [⟨lane, bs⟩], service.now, false⟩] })

/-- To watch a lane is to join the feed and to enter at once. -/
theorem watch_eq (lane : Lane) (s : Server σ) :
    s.watch lane false = s.join.enter lane s.service.feed.receivers.length := by
  unfold watch enter join withService
  dsimp only
  rcases Service.atDesk (Desk.bookings lane)
    { s.service with feed := s.service.feed.subscribe } with ⟨_ | bs, service⟩ <;> rfl

omit [Store σ] in
/-- A stream asks for one thing. -/
def read (number : Nat) (s : Server σ) : Received × Server σ :=
  match s.streams[number]? with
  | none => (.nothing, s)
  | some stream =>
    let (x, stream, feed) := stream.read s.service.feed
    (x, { s with
      service := { s.service with feed }
      streams := s.streams.set number stream })

omit [Store σ] in
/-- A stream that is not there gets nothing. -/
lemma read_of_none {s : Server σ} {number : Nat} (h : s.streams[number]? = none) :
    s.read number = (.nothing, s) := by
  simp only [read, h]

omit [Store σ] in
/-- What a stream gets changes the feed and the stream. -/
lemma read_of_some {s : Server σ} {number : Nat} {stream : Stream}
    (h : s.streams[number]? = some stream) :
    s.read number =
      ((stream.read s.service.feed).1, { s with
        service := { s.service with feed := (stream.read s.service.feed).2.2 }
        streams := s.streams.set number (stream.read s.service.feed).2.1 }) := by
  simp only [read, h]

end Requests

/-! ## Runs with streams -/

/-- What can happen while there are streams. -/
inductive Move where
  /-- Something happens to the service. -/
  | beat (x : Service.Beat Memory)
  /-- Somebody watches a lane. -/
  | watch (lane : Lane)
  /-- A stream asks for one thing, since its client is ready for it. -/
  | read (number : Nat)

/-- A move does not make the store confuse the lane with another one. -/
def Move.Sound (k : Lane) : Move → Prop
  | .beat x => x.Sound k
  | _ => True

/-- A move is about no repository with a colon, and does nothing to the store from outside. -/
def Move.isPlain : Move → Bool
  | .beat (.call c) => c.lane.repo.Colonless
  | .beat (.outside _) => false
  | _ => true

/-- Names without colons keep lanes apart. -/
lemma Move.sound_of_isPlain {k : Lane} (hk : k.repo.Colonless) {m : Move} (h : m.isPlain = true) :
    m.Sound k := by
  cases m with
  | beat x =>
    cases x with
    | call c => exact Lane.storeKey_inj (of_decide_eq_true h) hk
    | outside f => cases h
    | check | event | task | alarm | tick => trivial
  | watch | read => trivial

/-- The server after a move. -/
def move : Move → Server Memory → Server Memory
  | .beat x, s => s.withService (s.service.beat x)
  | .watch lane, s => (s.watch lane false).2
  | .read number, s => (s.read number).2

/-- The server after moves, one after the other. -/
def run (moves : List Move) (s : Server Memory) : Server Memory :=
  moves.foldl (fun s m => s.move m) s

/-! ## What goes past a stream -/

/-- What a stream meets in the feed. -/
inductive Sight where
  | got (x : LaneSnapshot)
  /-- These went past the stream while it was too slow. -/
  | lost (xs : List LaneSnapshot)
deriving DecidableEq

/-- The snapshots that a stream met, whether or not it got them. -/
def Sight.snapshots : Sight → List LaneSnapshot
  | .got x => [x]
  | .lost xs => xs

/-- The snapshots that a stream got. -/
def Sight.gotten : Sight → List LaneSnapshot
  | .got x => [x]
  | .lost _ => []

/-- The snapshots that were the last ones to go before those that are kept. -/
def lately (n : Nat) (s : Server Memory) : List LaneSnapshot :=
  (s.service.shown.rdrop s.service.feed.kept.length).rtake n

/-- What a stream meets when it asks for one thing. -/
def sight (number : Nat) (s : Server Memory) : List Sight :=
  match (s.read number).1 with
  | .snapshot x => [.got x]
  | .lagged n => [.lost (s.lately n)]
  | .nothing => []

/-- What a stream meets in a move. -/
def Move.sights (number : Nat) (s : Server Memory) : Move → List Sight
  | .read j => if j = number then s.sight number else []
  | _ => []

/-- What a stream meets in a run. -/
def sights (number : Nat) : List Move → Server Memory → List Sight
  | [], _ => []
  | m :: moves, s => m.sights number s ++ sights number moves (s.move m)

/-- The snapshots of its lane that a stream got, and so has sent. -/
def received (k : Lane) (seen : List Sight) : List LaneSnapshot :=
  (seen.flatMap Sight.gotten).filter (·.lane == k)

/-- The snapshots of its lane that went past a stream, whether or not it got them. -/
def passed (k : Lane) (seen : List Sight) : List LaneSnapshot :=
  (seen.flatMap Sight.snapshots).filter (·.lane == k)

/-- What a stream got is some of what it met. -/
lemma gotten_sublist (seen : List Sight) :
    (seen.flatMap Sight.gotten).Sublist (seen.flatMap Sight.snapshots) := by
  induction seen with
  | nil => exact .refl _
  | cons sight seen ih =>
    rw [List.flatMap_cons, List.flatMap_cons]
    refine List.Sublist.append ?_ ih
    cases sight with
    | got x => exact .refl _
    | lost xs => exact List.nil_sublist xs

end Server

end Http

end MergeTurn
