import MergeTurn.Proofs.Desk.Roll

set_option autoImplicit false

/-!
# The lanes as the events tell them

Whoever listens to the desk need not ask the store. An event says which booking was put at the end
of which lane, or taken out of it, and what was so of the lane before. Replaying the events of a
history from the lanes that it began with gives the lanes that it left, over any store in memory,
whatever was in it and whether or not its lists and sets were in step.

## Main definitions

* `MergeTurn.LaneEvent.apply`, `MergeTurn.replay` — the lanes after one event and after many.
* `MergeTurn.LaneEvent.TrueOf`, `MergeTurn.Truthful` — what an event says is so of the lanes before
  it.
* `MergeTurn.Desk.Announces` — what a request publishes is what it answers, and nothing if it
  answers that no lane has changed.
* `MergeTurn.Desk.published` — the events of a history, in order.

## Main results

* `MergeTurn.Desk.serve_tells` — what a request changes is told by one event.
* `MergeTurn.Desk.replay_published` — the events of a history tell the lanes.
-/

namespace MergeTurn

/-! ## Events as changes of lanes -/

namespace LaneEvent

/-- The lanes after a change: a booking is put at the end of its lane, or its pull request is taken
out. -/
def apply (w : Lane → List Booking) : LaneEvent → Lane → List Booking
  | .added l b _ => Function.update w l (w l ++ [b])
  | .removed l b _ => Function.update w l ((w l).eraseP (·.number == b.number))

/-- What an event says is so of the lanes before it: the place of a new booking is the length of its
lane; a removed booking is the one that was kept of its pull request, and the head changed exactly
if it was at the front. -/
def TrueOf (w : Lane → List Booking) : LaneEvent → Prop
  | .added l _ place => place = (w l).length
  | .removed l b removal => (w l).find? (·.number == b.number) = some b ∧
      (removal.headChanged = true ↔ ∃ first, (w l).head? = some first ∧ first.number = b.number)

/-- The lanes after a booking. -/
lemma apply_added (w : Lane → List Booking) (l l' : Lane) (b : Booking) (place : Nat) :
    (added l b place).apply w l' = if l' = l then w l ++ [b] else w l' :=
  Function.update_apply ..

/-- The lanes after a removal. -/
lemma apply_removed (w : Lane → List Booking) (l l' : Lane) (b : Booking) (removal : Removal) :
    (removed l b removal).apply w l' =
      if l' = l then (w l).eraseP (·.number == b.number) else w l' :=
  Function.update_apply ..

/-- A change leaves other lanes alone. -/
lemma apply_of_ne (w : Lane → List Booking) {e : LaneEvent} {l : Lane} (h : l ≠ e.lane) :
    e.apply w l = w l := by
  cases e <;> exact Function.update_of_ne h _ _

/-- A change of a lane depends on that lane only. -/
lemma apply_congr {w w' : Lane → List Booking} (e : LaneEvent) {l : Lane} (hl : w l = w' l)
    (he : w e.lane = w' e.lane) : e.apply w l = e.apply w' l := by
  cases e with
  | added l' b place =>
    replace he : w l' = w' l' := he
    simp only [apply_added, hl, he]
  | removed l' b removal =>
    replace he : w l' = w' l' := he
    simp only [apply_removed, hl, he]

/-- What an event says is about its own lane. -/
lemma TrueOf.congr {w w' : Lane → List Booking} {e : LaneEvent} (h : e.TrueOf w)
    (he : w e.lane = w' e.lane) : e.TrueOf w' := by
  cases e with
  | added l b place =>
    replace he : w l = w' l := he
    rwa [TrueOf, ← he]
  | removed l b removal =>
    replace he : w l = w' l := he
    rwa [TrueOf, ← he]

end LaneEvent

/-- The lanes after changes, one after the other, as their events tell it. -/
def replay (w : Lane → List Booking) (es : List LaneEvent) : Lane → List Booking :=
  es.foldl LaneEvent.apply w

/-- What each of some events says is so of the lanes that those before it leave. -/
def Truthful : (Lane → List Booking) → List LaneEvent → Prop
  | _, [] => True
  | w, e :: es => e.TrueOf w ∧ Truthful (e.apply w) es

/-- What each lane of the store holds. -/
def Memory.lanes (m : Memory) (l : Lane) : List Booking :=
  m.shelves.bookings l.storeKey

/-! ## What a request publishes -/

/-- A store in memory that took one change takes the next. -/
lemma Memory.serving_of_replace {α : Type} {answer a : α} {s : Shelves} {m t : Memory}
    (h : m.replace answer s = (.ok a, t)) : t.Serving := by
  have ho : m.online = true := by
    by_contra ho
    rw [replace_of_offline answer s ho] at h
    cases h
  rcases replace_cases answer s m with ⟨t', ht, -, hon, hw⟩ | ⟨e, t', ht, -⟩
  · cases ht.symm.trans h
    exact ⟨hon.trans ho, hw⟩
  · cases ht.symm.trans h

namespace Desk

/-- Over a store in memory no removal stops halfway. -/
lemma not_stopsHalfway (lane : Lane) (n : PullNumber) (m : Memory) : ¬ StopsHalfway lane n m := by
  rintro ⟨bs, s₁, s₂, e, s₃, -, hfirst, hmember⟩
  obtain ⟨a, t, hdone, -⟩ := (Memory.serving_of_replace hfirst).replace ()
    (s₂.shelves.removeMember lane.repo.storeKey n)
  cases hdone.symm.trans hmember

/-- What a request publishes is what it answers, and nothing if it answers that no lane has
changed. -/
def Announces : Request → Except DeskError Outcome → List LaneEvent → Prop
  | .book l b, .ok (.booked (.added place)), es => es = [.added l b place]
  | .unbook l n closed, .ok (.unbooked (.removed b removal)), es =>
    es = [.removed l b removal] ∧ b.number = n ∧ removal.closed = closed
  | _, _, es => es = []

/-- What a request changes is told by what it publishes: nothing, and all lanes are as before, or
one event that is true of the lanes before and leads to those after. -/
inductive Tells (r : Request) (m : Memory) : Turn Memory Outcome → Prop
  | nothing {a : Except DeskError Outcome} {t : Memory} (ha : Announces r a [])
    (ht : ∀ l, t.lanes l = m.lanes l) : Tells r m ⟨a, t, []⟩
  | event {a : Except DeskError Outcome} {t : Memory} {e : LaneEvent} (ha : Announces r a [e])
    (he : e.lane = r.lane) (htrue : e.TrueOf m.lanes)
    (ht : ∀ l : Lane, l.repo.Colonless → t.lanes l = e.apply m.lanes l) : Tells r m ⟨a, t, [e]⟩

/-- A request about a lane of a repository without colons is told by what it publishes.

**Proof sketch.** One case for each way in which a booking or a removal can end. Those that publish
nothing leave the lists alone; the one that would not, a removal that stops halfway, does not
happen over a store in memory. -/
theorem serve_tells {r : Request} (hr : r.lane.repo.Colonless) (m : Memory) :
    Tells r m (serve r m) := by
  have hkeeps : Memory.Keeps fun _ => True := by
    intro α answer s t _
    trivial
  have hlanes : ∀ {t : Memory} {k : Books}, t.books = k → ∀ l, t.lanes l = k.list l.storeKey :=
    fun h l => congrArg (fun k : Books => k.list l.storeKey) h
  cases r with
  | book l b =>
    have hl : l.repo.Colonless := hr
    have hends := book_ends (Memory.atomic hkeeps) (s := m) trivial l b
    simp only [serve]
    generalize book l b m = turn at hends ⊢
    cases hends with
    | invalid => exact .nothing rfl fun _ => rfl
    | failed _ _ h => exact .nothing rfl (hlanes h)
    | stranded _ _ _ h => exact .nothing rfl (hlanes h)
    | duplicate _ _ _ h => exact .nothing rfl (hlanes h)
    | @added t _ _ _ h =>
      have hbooks : t.books = (m.books.addMember l.repo.storeKey b.number).append l.storeKey b := h
      refine .event rfl rfl rfl fun l' hl' => ?_
      rw [hlanes hbooks, Books.list_append hl hl', Books.list_addMember, LaneEvent.apply_added]
      rfl
  | unbook l n closed =>
    have hl : l.repo.Colonless := hr
    have hends := unbook_ends (Memory.atomic hkeeps) (s := m) trivial l n closed
    simp only [serve]
    generalize unbook l n closed m = turn at hends ⊢
    cases hends with
    | failed _ _ h => exact .nothing rfl (hlanes h)
    | halfway hh => exact absurd hh (not_stopsHalfway l n m)
    | notBooked _ _ h => exact .nothing rfl (hlanes h)
    | @removed b t hb _ h =>
      obtain rfl : b.number = n := number_of_find? hb
      have hbooks : t.books =
          (m.books.removeFirst l.storeKey b.number).removeMember l.repo.storeKey b.number := h
      refine .event ⟨rfl, rfl, rfl⟩ rfl ⟨hb, ?_⟩ fun l' hl' => ?_
      · rw [Option.any_eq_true]
        simp only [beq_iff_eq]
        rfl
      · rw [hlanes hbooks, Books.list_removeMember, Books.list_removeFirst hl hl',
          LaneEvent.apply_removed]
        rfl

/-! ## Histories -/

/-- The request of a move, if it is one. -/
def Move.request? : Move → Option Request
  | .call r => some r
  | .switch _ => none

/-- The events of a history, in the order in which they were published. -/
def published (moves : List Move) (m : Memory) : List LaneEvent :=
  (memoryHistory moves m).1.flatMap (·.2)

/-- The events of a history lead from lanes that read like the store's to lanes that read so
again. -/
lemma history_tells {moves : List Move} (hc : ∀ x ∈ moves, x.Colonless) {m : Memory}
    {w : Lane → List Booking} (hw : ∀ l : Lane, l.repo.Colonless → m.lanes l = w l) :
    Truthful w (published moves m) ∧
      (∀ l : Lane, l.repo.Colonless →
        (memoryHistory moves m).2.lanes l = replay w (published moves m) l) ∧
      List.Forall₂ (fun r report => Announces r report.1 report.2)
        (moves.filterMap Move.request?) (memoryHistory moves m).1 := by
  induction moves generalizing m w with
  | nil => exact ⟨trivial, hw, .nil⟩
  | cons x moves ih =>
    obtain ⟨hx, hrest⟩ := List.forall_mem_cons.1 hc
    cases x with
    | switch online => exact ih hrest hw
    | call r =>
      have htells := serve_tells hx m
      have hhistory : memoryHistory (.call r :: moves) m =
          (((serve r m).answer, (serve r m).published) ::
            (memoryHistory moves (serve r m).store).1,
            (memoryHistory moves (serve r m).store).2) := rfl
      simp only [published, hhistory, List.flatMap_cons]
      generalize serve r m = turn at htells ⊢
      cases htells with
      | @nothing a t ha ht =>
        obtain ⟨htrue, hleft, hreports⟩ := ih hrest (m := t) fun l hl => (ht l).trans (hw l hl)
        exact ⟨htrue, hleft, .cons ha hreports⟩
      | @event a t e ha he htrue ht =>
        have hsame : m.lanes e.lane = w e.lane := hw _ (he ▸ hx)
        have hreads : ∀ l : Lane, l.repo.Colonless → t.lanes l = e.apply w l := fun l hl =>
          (ht l hl).trans (e.apply_congr (hw l hl) hsame)
        obtain ⟨htruths, hleft, hreports⟩ := ih hrest hreads
        exact ⟨⟨htrue.congr hsame, htruths⟩, hleft, .cons ha hreports⟩

/-- The events of a history tell the lanes. Over any store in memory, whatever is asked of the desk
and whenever the store comes and goes, each request publishes what it answers, and nothing if it
was refused or changed nothing; what each event says is so of the lanes that the events before it
lead to; and each lane that is left, read when the store can be reached, is the one to which all
events lead. -/
theorem replay_published {m : Memory} {moves : List Move} (hc : ∀ x ∈ moves, x.Colonless) :
    List.Forall₂ (fun r report => Announces r report.1 report.2)
      (moves.filterMap Move.request?) (memoryHistory moves m).1 ∧
    Truthful m.lanes (published moves m) ∧
    ∀ l : Lane, l.repo.Colonless → ∀ online,
      (bookings l { (memoryHistory moves m).2 with online }).answer =
        if online then .ok (replay m.lanes (published moves m) l)
        else .error (.store Memory.offline) := by
  obtain ⟨htrue, hleft, hreports⟩ := history_tells hc (m := m) (w := m.lanes) fun _ _ => rfl
  refine ⟨hreports, htrue, fun l hl online => ?_⟩
  rw [← hleft l hl]
  cases online <;> rfl

/-- The lane of the sample history. -/
def mainLane : Lane := ⟨⟨"octo", "widgets"⟩, "main"⟩

/-- A booking of the sample history. -/
def sampleBooking (n : UInt64) (username : String) : Booking :=
  ⟨⟨n⟩, username, Time.Timestamp.epoch⟩

/-- A store with one booking in the lane. -/
def stockedStore : Memory :=
  ⟨(Shelves.empty.addMember mainLane.repo.storeKey ⟨7⟩).append mainLane.storeKey
    (sampleBooking 7 "mona"), none, true⟩

/-- A second booking joins the lane; the store goes, so that the first cannot be taken out; it comes
back; the first is taken out, and the second is booked again in vain. -/
def outageHistory : List Move :=
  [.call (.book mainLane (sampleBooking 8 "hubot")), .switch false,
    .call (.unbook mainLane ⟨7⟩ true), .switch true, .call (.unbook mainLane ⟨7⟩ true),
    .call (.book mainLane (sampleBooking 8 "mona"))]

/-- The two events of that history lead to the lane with the second booking alone. -/
theorem replay_published_outage :
    (∀ x ∈ outageHistory, x.Colonless) ∧
    published outageHistory stockedStore =
      [.added mainLane (sampleBooking 8 "hubot") 1,
        .removed mainLane (sampleBooking 7 "mona") ⟨true, true⟩] ∧
    replay stockedStore.lanes (published outageHistory stockedStore) mainLane =
      [sampleBooking 8 "hubot"] := by
  have hc : ∀ x ∈ outageHistory, x.Colonless := by decide
  refine ⟨hc, by decide +kernel, ?_⟩
  have hreplay := (replay_published (m := stockedStore) hc).2.2 mainLane (by decide) true
  have hread : (bookings mainLane
      { (memoryHistory outageHistory stockedStore).2 with online := true }).answer =
      .ok [sampleBooking 8 "hubot"] := by decide +kernel
  exact (Except.ok.inj (hread.symm.trans hreplay)).symm

end Desk

end MergeTurn
