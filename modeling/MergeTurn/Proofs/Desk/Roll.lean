import MergeTurn.Proofs.Desk.InStep

set_option autoImplicit false

/-!
# The desk against a plain roll

A roll keeps one list for each lane and nothing else. Whether a pull request may be booked is read
off the lists themselves. The desk, which keeps a set beside the lists and knows both by texts that
it joins from names, answers and publishes what the roll does, over a store in memory that comes
and goes between the requests.

## Main definitions

* `MergeTurn.Roll` — the lists, and whether they can be reached.
* `MergeTurn.Roll.serve` — what a request does to them.
* `MergeTurn.Desk.Move`, `MergeTurn.Desk.history` — requests one after the other, with the store
  switched on and off between them.
* `MergeTurn.Roll.Agrees` — a store reads like a roll.

## Main results

* `MergeTurn.Roll.Agrees.serve` — a request finds and leaves a store that reads like the roll.
* `MergeTurn.Desk.history_eq_roll` — so does a history from an empty store.
-/

namespace MergeTurn

/-- The bookings of each lane, in order, and whether they can be reached. -/
structure Roll where
  lanes : Lane → List Booking
  online : Bool

namespace Roll

/-- A roll with nothing in it. -/
def empty (online : Bool) : Roll := ⟨fun _ => [], online⟩

/-- A pull request is in some lane of its repository. -/
def Holds (w : Roll) (r : Repo) (n : PullNumber) : Prop :=
  ∃ branch, n ∈ (w.lanes (r.lane branch)).map (·.number)

/-- The roll with other bookings in a lane. -/
def put (lane : Lane) (bs : List Booking) (w : Roll) : Roll :=
  { w with lanes := Function.update w.lanes lane bs }

open Classical in
/-- Books a pull request that is in no lane of the repository. -/
noncomputable def book (lane : Lane) (b : Booking) (w : Roll) : Turn Roll BookOutcome :=
  if b.number.val = 0 then .fail (.invalid "pull_request_number must be positive") w
  else if Text.isBlankText b.username then .fail (.invalid "username must not be empty") w
  else if w.online = false then .fail (.store Memory.offline) w
  else if w.Holds lane.repo b.number then .done .duplicate w
  else
    let place := (w.lanes lane).length
    ⟨.ok (.added place), w.put lane (w.lanes lane ++ [b]), [.added lane b place]⟩

/-- Takes a pull request out of one lane. -/
def unbook (lane : Lane) (n : PullNumber) (closed : Bool) (w : Roll) : Turn Roll UnbookOutcome :=
  if w.online = false then .fail (.store Memory.offline) w
  else
    match (w.lanes lane).find? (·.number == n) with
    | none => .done .notBooked w
    | some b =>
      let removal : Removal := ⟨closed, (w.lanes lane).head? = some b⟩
      ⟨.ok (.removed b removal), w.put lane ((w.lanes lane).filter (·.number != n)),
        [.removed lane b removal]⟩

/-- The turn of a request. -/
noncomputable def serve : Desk.Request → Roll → Turn Roll Desk.Outcome
  | .book lane b, w => (book lane b w).map .booked
  | .unbook lane n closed, w => (unbook lane n closed w).map .unbooked

/-- What asking the roll answers. -/
def ask {α : Type} (w : Roll) (a : α) : Except DeskError α :=
  if w.online then .ok a else .error (.store Memory.offline)

end Roll

/-! ## Histories -/

namespace Desk

/-- A move of a history: a request, or the store comes or goes. -/
inductive Move where
  | call (request : Request)
  | switch (online : Bool)
deriving DecidableEq

/-- The requests of a move are about lanes of repositories without colons. -/
def Move.Colonless : Move → Prop
  | .call r => r.lane.repo.Colonless
  | .switch _ => True

instance : DecidablePred Move.Colonless
  | .call r => inferInstanceAs (Decidable r.lane.repo.Colonless)
  | .switch _ => inferInstanceAs (Decidable True)

/-- The moves one after the other: what each request answers and publishes, and what is left. -/
def history {τ : Type} (serve : Request → τ → Turn τ Outcome) (switch : Bool → τ → τ) :
    List Move → τ → List (Except DeskError Outcome × List LaneEvent) × τ
  | [], t => ([], t)
  | .call r :: rest, t =>
    let turn := serve r t
    let (reports, u) := history serve switch rest turn.store
    ((turn.answer, turn.published) :: reports, u)
  | .switch o :: rest, t => history serve switch rest (switch o t)

/-- What a history does to a store in memory. -/
def memoryHistory :
    List Move → Memory → List (Except DeskError Outcome × List LaneEvent) × Memory :=
  history serve fun o m => { m with online := o }

/-- What a history does to a roll. -/
noncomputable def rollHistory :
    List Move → Roll → List (Except DeskError Outcome × List LaneEvent) × Roll :=
  history Roll.serve fun o w => { w with online := o }

end Desk

/-! ## The desk over a store in memory -/

namespace Memory

/-- No request switches the store or spoils its file. -/
lemma keeps_online (o : Bool) : Keeps fun m => m.online = o ∧ m.Writable := by
  intro α answer s m ⟨ho, hw⟩
  rcases replace_cases answer s m with ⟨t, e, -, ht, hwt⟩ | ⟨err, t, e, -, ht, hwt, -⟩
  · rw [e]
    exact ⟨ht.trans ho, hwt⟩
  · rw [e]
    exact ⟨ht.trans ho, hwt hw⟩

end Memory

/-- The flaws of a booking, spelt out. -/
lemma Booking.flaw?_eq (b : Booking) :
    b.flaw? = if b.number.val = 0 then some "pull_request_number must be positive"
      else if Text.isBlankText b.username then some "username must not be empty" else none :=
  rfl

/-- In a list without repetition, taking out the first booking of a pull request is taking out
every one. -/
lemma eraseP_eq_filter {bs : List Booking} (n : PullNumber) (h : (bs.map (·.number)).Nodup) :
    bs.eraseP (·.number == n) = bs.filter (·.number != n) := by
  induction bs with
  | nil => rfl
  | cons b bs ih =>
    obtain ⟨hb, hbs⟩ := List.nodup_cons.1 h
    by_cases hn : b.number = n
    · have hrest : bs.filter (·.number != n) = bs := by
        refine List.filter_eq_self.2 fun c hc => ?_
        have hne : c.number ≠ n := fun e => hb (List.mem_map.2 ⟨c, hc, e.trans hn.symm⟩)
        simpa using hne
      simp [hn, hrest]
    · simp [hn, ih hbs]

/-- The head is a pull request's booking exactly if it is the first one found. -/
lemma head?_any_eq_decide {bs : List Booking} {n : PullNumber} {b : Booking}
    (h : bs.find? (·.number == n) = some b) :
    bs.head?.any (·.number == n) = decide (bs.head? = some b) := by
  cases bs with
  | nil => simp at h
  | cons c cs =>
    by_cases hc : c.number = n
    · obtain rfl : c = b := by simpa [hc] using h
      simp [hc]
    · have hne : c ≠ b := fun e => hc (e ▸ number_of_find? h)
      simp [hc, hne]

namespace Roll

/-- The lanes of a roll with other bookings in one of them. -/
lemma lanes_put (l l' : Lane) (bs : List Booking) (w : Roll) :
    (w.put l bs).lanes l' = if l' = l then bs else w.lanes l' :=
  Function.update_apply ..

/-- A store reads like a roll: its lists are the roll's, and its sets are in step with them. -/
structure Agrees (m : Memory) (w : Roll) : Prop where
  online : m.online = w.online
  writable : m.Writable
  inStep : m.books.InStep
  lanes : ∀ l : Lane, l.repo.Colonless → m.books.list l.storeKey = w.lanes l
  /-- Lanes whose keys could be mistaken for others are not used. -/
  unused : ∀ l : Lane, ¬ l.repo.Colonless → w.lanes l = []

variable {m : Memory} {w : Roll}

/-- An empty store reads like an empty roll. -/
lemma agrees_empty (hm : m.shelves = Shelves.empty) (hw : m.Writable) :
    Agrees m (empty m.online) where
  online := rfl
  writable := hw
  inStep := by simpa [Memory.books, hm] using Books.inStep_empty
  lanes l _ := by simp [Memory.books, hm, Books.empty, empty]
  unused l _ := rfl

namespace Agrees

variable (h : Agrees m w)
include h

/-- Switching the store switches the roll. -/
lemma switch (o : Bool) : Agrees { m with online := o } { w with online := o } :=
  ⟨rfl, h.writable, h.inStep, h.lanes, h.unused⟩

/-- The set of a repository holds what the roll's lanes of it hold. -/
lemma member_iff {r : Repo} (hr : r.Colonless) (n : PullNumber) :
    m.books.member r.storeKey n = true ↔ w.Holds r n := by
  rw [h.inStep.member_iff r hr n]
  refine exists_congr fun branch => ?_
  rw [Books.Lists, h.lanes _ hr]

/-- What a booking leaves reads like the roll with the booking at the end of its lane. -/
lemma added {l : Lane} {b : Booking} {t : Memory} (hl : l.repo.Colonless)
    (ht : t.online = m.online ∧ t.Writable) (hm : m.books.member l.repo.storeKey b.number = false)
    (hb : t.books = (m.books.addMember l.repo.storeKey b.number).append l.storeKey b) :
    Agrees t (w.put l (w.lanes l ++ [b])) where
  online := ht.1.trans h.online
  writable := ht.2
  inStep := hb ▸ h.inStep.book hl hm
  lanes l' hl' := by
    rw [hb, Books.list_append hl hl', Books.list_addMember, h.lanes l hl, h.lanes l' hl',
      lanes_put]
  unused l' hl' := by
    have hne : l' ≠ l := fun e => hl' (e.symm ▸ hl)
    rw [lanes_put, if_neg hne, h.unused l' hl']

/-- What a removal leaves reads like the roll with the pull request gone from its lane. -/
lemma removed {l : Lane} {n : PullNumber} {t : Memory} (hl : l.repo.Colonless)
    (ht : t.online = m.online ∧ t.Writable) (hn : m.books.Lists l.storeKey n)
    (hb : t.books = (m.books.removeFirst l.storeKey n).removeMember l.repo.storeKey n) :
    Agrees t (w.put l ((w.lanes l).filter (·.number != n))) where
  online := ht.1.trans h.online
  writable := ht.2
  inStep := hb ▸ h.inStep.unbook hl hn
  lanes l' hl' := by
    rw [hb, Books.list_removeMember, Books.list_removeFirst hl hl', h.lanes l' hl', lanes_put,
      eraseP_eq_filter n (h.inStep.nodup l hl), h.lanes l hl]
  unused l' hl' := by
    have hne : l' ≠ l := fun e => hl' (e.symm ▸ hl)
    rw [lanes_put, if_neg hne, h.unused l' hl']

/-- A request that changes nothing leaves a store that reads like the roll. -/
lemma unchanged {t : Memory} (ht : t.online = m.online ∧ t.Writable) (hb : t.books = m.books) :
    Agrees t w :=
  ⟨ht.1.trans h.online, ht.2, hb ▸ h.inStep, hb ▸ h.lanes, h.unused⟩

/-- A lane of the store reads like the lane of the roll. -/
lemma bookings {l : Lane} (hl : l.repo.Colonless) :
    (Desk.bookings l m).answer = w.ask (w.lanes l) := by
  have hlist : m.shelves.bookings l.storeKey = w.lanes l := h.lanes l hl
  simp only [Roll.ask, ← h.online, ← hlist, Desk.bookings, Store.readRange, Memory.read]
  by_cases ho : m.online = true
  · simp [ho, Turn.ask, Turn.done, Shelves.front]
  · simp [ho, Turn.ask, Turn.fail]

/-- A set of the store reads like the lanes of the roll. -/
lemma isMember {r : Repo} (hr : r.Colonless) (n : PullNumber) : ∃ inSet : Bool,
    (Store.isMember r.storeKey n m).1 =
      (if w.online then .ok inSet else .error Memory.offline) ∧
    (inSet = true ↔ w.Holds r n) := by
  refine ⟨m.books.member r.storeKey n, ?_, h.member_iff hr n⟩
  simp only [← h.online, Store.isMember, Memory.read]
  by_cases ho : m.online = true
  · simp [ho, Memory.books, Shelves.books]
  · simp [ho]

/-- No lane of the roll holds a pull request twice. -/
lemma nodup (l : Lane) : ((w.lanes l).map (·.number)).Nodup := by
  by_cases hl : l.repo.Colonless
  · rw [← h.lanes l hl]
    exact h.inStep.nodup l hl
  · rw [h.unused l hl]
    exact List.nodup_nil

/-- The store serves while the roll can be reached. -/
lemma serving (hw : w.online = true) : m.Serving :=
  ⟨h.online.trans hw, h.writable⟩

end Agrees

/-- A turn over the store comes to the same as a turn over the roll. -/
structure Matches {α : Type} (x : Turn Memory α) (y : Turn Roll α) : Prop where
  answer : x.answer = y.answer
  published : x.published = y.published
  store : Agrees x.store y.store

/-- Turns that come to the same do so in other words too. -/
lemma Matches.map {α β : Type} {x : Turn Memory α} {y : Turn Roll α} (h : Matches x y)
    (f : α → β) : Matches (x.map f) (y.map f) :=
  ⟨congrArg (Except.map f) h.answer, h.published, h.store⟩

namespace Agrees

variable (h : Agrees m w)
include h

/-- Booking over the store comes to the same as booking over the roll.

**Proof sketch.** What is wrong with the booking is found before the store is asked, and a store
that is offline refuses the first question. Otherwise no call fails, and the set decides as the
lists would. -/
lemma book {l : Lane} (hl : l.repo.Colonless) (b : Booking) :
    Matches (Desk.book l b m) (w.book l b) := by
  have hflaw := b.flaw?_eq
  unfold Roll.book
  split_ifs at hflaw ⊢ with hzero hblank hoff hin
  · simp only [Desk.book, hflaw]
    exact ⟨rfl, rfl, h⟩
  · simp only [Desk.book, hflaw]
    exact ⟨rfl, rfl, h⟩
  · have hm : m.online = false := h.online.trans hoff
    simp only [Desk.book, hflaw, Store.isMember, Memory.read, hm]
    exact ⟨rfl, rfl, h⟩
  · obtain ⟨o, ho⟩ := Desk.book_ok_of_works
      (Memory.works (h.serving (Bool.of_not_eq_false hoff))) l hflaw
    obtain ⟨t, ht, ⟨-, hb, hturn⟩ | ⟨hm, -⟩⟩ :=
      Desk.book_of_ok (A := Memory.atomic (Memory.keeps_online m.online)) ⟨rfl, h.writable⟩ ho
    · rw [hturn]
      exact ⟨rfl, rfl, h.unchanged ht hb⟩
    · cases ((h.member_iff hl b.number).2 hin).symm.trans hm
  · obtain ⟨o, ho⟩ := Desk.book_ok_of_works
      (Memory.works (h.serving (Bool.of_not_eq_false hoff))) l hflaw
    obtain ⟨t, ht, ⟨hm, -⟩ | ⟨hm, hb, hturn⟩⟩ :=
      Desk.book_of_ok (A := Memory.atomic (Memory.keeps_online m.online)) ⟨rfl, h.writable⟩ ho
    · exact absurd ((h.member_iff hl b.number).1 hm) hin
    · have hlen : (m.books.list l.storeKey).length = (w.lanes l).length := by rw [h.lanes l hl]
      rw [hturn]
      exact ⟨by simp [Memory.atomic, hlen], by simp [Memory.atomic, hlen], h.added hl ht hm hb⟩

/-- Removing from the store comes to the same as removing from the roll. -/
lemma unbook {l : Lane} (hl : l.repo.Colonless) (n : PullNumber) (closed : Bool) :
    Matches (Desk.unbook l n closed m) (w.unbook l n closed) := by
  unfold Roll.unbook
  split_ifs with hoff
  · have hm : m.online = false := h.online.trans hoff
    simp only [Desk.unbook, Store.readRange, Memory.read, hm]
    exact ⟨rfl, rfl, h⟩
  · obtain ⟨o, ho⟩ := Desk.unbook_ok_of_works
      (Memory.works (h.serving (Bool.of_not_eq_false hoff))) l n closed
    have hlist : (Memory.atomic (Memory.keeps_online m.online)).books m = m.books := rfl
    obtain ⟨t, ht, ⟨hn, hb, hturn⟩ | ⟨b, removal, hb, hremoval, hbooks, hturn⟩⟩ :=
      Desk.unbook_of_ok (A := Memory.atomic (Memory.keeps_online m.online)) ⟨rfl, h.writable⟩ ho
    · have hnone : (w.lanes l).find? (·.number == n) = none := by
        rw [hlist, Books.Lists, h.lanes l hl] at hn
        simpa using hn
      rw [hturn, hnone]
      exact ⟨rfl, rfl, h.unchanged ht hb⟩
    · have hlisted : m.books.Lists l.storeKey n := Books.lists_of_find? hb
      rw [hlist, h.lanes l hl] at hb hremoval
      rw [head?_any_eq_decide hb] at hremoval
      rw [hturn, hb, hremoval]
      exact ⟨rfl, rfl, h.removed hl ht hlisted hbooks⟩

/-- A request comes to the same over the store and over the roll. -/
theorem serve {r : Desk.Request} (hr : r.lane.repo.Colonless) :
    Matches (Desk.serve r m) (w.serve r) := by
  cases r with
  | book l b => exact (h.book hr b).map _
  | unbook l n closed => exact (h.unbook hr n closed).map _

end Agrees

end Roll

namespace Desk

/-- A history over a store that reads like a roll reports what it reports over the roll, and leaves
them so. -/
theorem history_agrees {moves : List Move} (hc : ∀ x ∈ moves, x.Colonless) {m : Memory} {w : Roll}
    (h : Roll.Agrees m w) :
    (memoryHistory moves m).1 = (rollHistory moves w).1 ∧
      Roll.Agrees (memoryHistory moves m).2 (rollHistory moves w).2 := by
  induction moves generalizing m w with
  | nil => exact ⟨rfl, h⟩
  | cons x moves ih =>
    obtain ⟨hx, hrest⟩ := List.forall_mem_cons.1 hc
    cases x with
    | call r =>
      have hs := h.serve hx
      obtain ⟨hreports, hleft⟩ := ih hrest hs.store
      refine ⟨?_, hleft⟩
      simp only [memoryHistory, rollHistory, history] at hreports ⊢
      rw [hs.answer, hs.published, hreports]
    | switch o => exact ih hrest (h.switch o)

/-- The desk over an empty store in memory is the desk over an empty roll. Whatever is asked of it,
and whenever the store comes and goes, it answers and publishes the same; then each lane reads as
on the roll, no lane holds a pull request twice, and a repository's set holds what its lanes do. -/
theorem history_eq_roll {m : Memory} (hm : m.shelves = Shelves.empty) (hw : m.Writable)
    {moves : List Move} (hc : ∀ x ∈ moves, x.Colonless) :
    let left := (memoryHistory moves m).2
    let roll := (rollHistory moves (Roll.empty m.online)).2
    (memoryHistory moves m).1 = (rollHistory moves (Roll.empty m.online)).1 ∧
    (∀ l : Lane, l.repo.Colonless → (bookings l left).answer = roll.ask (roll.lanes l)) ∧
    (∀ l : Lane, ((roll.lanes l).map (·.number)).Nodup) ∧
    (∀ r : Repo, r.Colonless → ∀ n, ∃ inSet : Bool,
      (Store.isMember r.storeKey n left).1 =
        (if roll.online then .ok inSet else .error Memory.offline) ∧
      (inSet = true ↔ roll.Holds r n)) := by
  intro left roll
  obtain ⟨hreports, h⟩ := history_agrees hc (Roll.agrees_empty hm hw)
  exact ⟨hreports, fun l hl => h.bookings hl, h.nodup, fun r hr n => h.isMember hr n⟩

/-- A history with two lanes of one repository, one of them of a branch with a colon in its name:
a pull request is booked in one lane, then in vain in the other; the store goes and comes back; the
pull request moves to the other lane; and two bookings lack something. -/
def movingHistory : List Move :=
  let main : Lane := ⟨⟨"octo", "widgets"⟩, "main"⟩
  let release : Lane := ⟨⟨"octo", "widgets"⟩, "release:1"⟩
  let booking (n : UInt64) (username : String) : Booking := ⟨⟨n⟩, username, Time.Timestamp.epoch⟩
  [.call (.book main (booking 7 "mona")), .call (.book release (booking 7 "mona")),
    .call (.unbook release ⟨7⟩ true), .switch false, .call (.book main (booking 8 "hubot")),
    .call (.unbook main ⟨7⟩ false), .switch true, .call (.unbook main ⟨7⟩ true),
    .call (.book release (booking 7 "mona")), .call (.book main (booking 0 "mona")),
    .call (.book main (booking 9 " "))]

/-- What the roll answers to that history, by way of the store. -/
theorem history_eq_roll_moving : (∀ x ∈ movingHistory, x.Colonless) ∧
    (rollHistory movingHistory (Roll.empty true)).1.map (·.1) =
      [.ok (.booked (.added 0)), .ok (.booked .duplicate), .ok (.unbooked .notBooked),
        .error (.store Memory.offline), .error (.store Memory.offline),
        .ok (.unbooked (.removed ⟨⟨7⟩, "mona", Time.Timestamp.epoch⟩ ⟨true, true⟩)),
        .ok (.booked (.added 0)), .error (.invalid "pull_request_number must be positive"),
        .error (.invalid "username must not be empty")] := by
  have hc : ∀ x ∈ movingHistory, x.Colonless := by decide
  refine ⟨hc, ?_⟩
  have hm := history_eq_roll (m := Memory.volatile) rfl (Memory.writable_of_backing_none rfl) hc
  rw [show Roll.empty true = Roll.empty Memory.volatile.online from rfl, ← hm.1]
  decide +kernel

end Desk

end MergeTurn
