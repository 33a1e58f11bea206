import MergeTurn.Proofs.Service.Herald

set_option autoImplicit false

/-!
# Who is told to be the head

A change of a lane is followed up later, when the lane may have changed again. Yet in the end no
head is forgotten: when nothing is left to follow up, whoever was told last is the head. Where
nothing is ever left to wait, this makes one notice of each new head, and none of anything else.

## Main definitions

* `MergeTurn.LaneEvent.MovesHead` — a change may bring about another head.
* `MergeTurn.Herald.Sound` — what holds of a herald at all times.
* `MergeTurn.announcement` — the notice that a new head calls for.
* `MergeTurn.Roll.serveAll` — the roll after requests.
* `MergeTurn.Service.Attended`, `MergeTurn.Service.Settled` — what holds of the service at all
  times, and between requests with all their tasks.

## Main results

* `MergeTurn.Herald.Sound.asked`, `MergeTurn.Herald.Sound.next` — requests and follow-ups keep a
  herald sound.
* `MergeTurn.Service.heads_settle` — when no task is left, the heads were told last.
* `MergeTurn.Service.notices_of_round` — a request with all its tasks sends the notice of the new
  head, if it brought one about.

## Design

The invariant speaks of the last change that may have moved a head. If none is pending, the right
one was told last. If the last one pending is a booking at the front of its lane, that booking is
still the head, since nothing has moved the head after it. If it is a removal, its follow-up reads
the lane as it is then, which is how it is now, and so nothing need be said.
-/

namespace MergeTurn

/-! ## Changes that move heads -/

namespace LaneEvent

/-- A change may bring about another head of a lane. -/
def MovesHead (l : Lane) : LaneEvent → Prop
  | .added l' _ place => l' = l ∧ place = 0
  | .removed l' _ removal => l' = l ∧ removal.headChanged = true

variable {w : Lane → List Booking} {e : LaneEvent} {l : Lane} {b : Booking}

/-- A change moves the head of its own lane only. -/
lemma MovesHead.lane_eq (h : e.MovesHead l) : e.lane = l := by
  cases e <;> exact h.1

/-- The other changes leave the head as it is. -/
lemma head?_apply (htrue : e.TrueOf w) (h : ¬ e.MovesHead l) :
    (e.apply w l).head? = (w l).head? := by
  by_cases hl : l = e.lane
  · subst hl
    cases e with
    | added l b place =>
      have hplace : (w l).length ≠ 0 := fun e => h ⟨rfl, htrue.trans e⟩
      obtain ⟨c, cs, hc⟩ := List.exists_cons_of_length_pos (Nat.pos_of_ne_zero hplace)
      simp [LaneEvent.lane, apply_added, hc]
    | removed l b removal =>
      obtain ⟨hfound, hmoved⟩ := htrue
      have hstays : ¬ ∃ first, (w l).head? = some first ∧ first.number = b.number :=
        fun hfirst => h ⟨rfl, hmoved.2 hfirst⟩
      cases hw : w l with
      | nil => simp [LaneEvent.lane, apply_removed, hw]
      | cons c cs =>
        have hc : ¬ c.number = b.number := fun e => hstays ⟨c, by simp [hw], e⟩
        simp [LaneEvent.lane, apply_removed, hw, hc]
  · rw [apply_of_ne w hl]

/-- A booking at the front of a lane is its head. -/
lemma head?_apply_added (htrue : (added l b 0).TrueOf w) :
    ((added l b 0).apply w l).head? = some b := by
  have hw : w l = [] := List.eq_nil_of_length_eq_zero (Eq.symm htrue)
  simp [apply_added, hw]

end LaneEvent

/-- The notice that a new head calls for. There is none if the lane has no head, or the one that it
had before. -/
def announcement (l : Lane) (old : Option PullNumber) (new : Option Booking) : List HeadNotice :=
  match new with
  | none => []
  | some b => if old = some b.number then [] else [⟨l, b.number, b.username⟩]

/-- A head that stays is not announced. -/
lemma announcement_self (l : Lane) (head : Option Booking) :
    announcement l (head.map (·.number)) head = [] := by
  cases head <;> simp [announcement]

/-! ## The invariant -/

namespace Herald

variable {v w : Herald} {e : LaneEvent} {l : Lane} {b : Booking}

/-- A change that does not move the head of its lane needs no follow-up. -/
lemma follow_of_not_movesHead (h : ¬ e.MovesHead e.lane) : v.follow e = v := by
  cases e with
  | added l b place => exact if_neg fun e => h ⟨rfl, e⟩
  | removed l b removal => exact if_neg fun e => h ⟨rfl, e⟩

/-- Following up a change of another lane, or one that does not move the head, leaves a lane's last
notice as it is. -/
lemma told_follow_of_not_movesHead (h : ¬ e.MovesHead l) : (v.follow e).told l = v.told l := by
  by_cases hl : l = e.lane
  · subst hl
    rw [follow_of_not_movesHead h]
  · cases e with
    | added l' b place =>
      simp only [follow]
      split
      · exact told_tell_of_ne v l' b hl
      · rfl
    | removed l' b removal =>
      simp only [follow]
      split
      · split
        · exact Function.update_of_ne hl _ _
        · exact told_tell_of_ne v l' _ hl
      · rfl

/-- Following up a change that moves the head tells the right one, provided that a booking at the
front of its lane is still the head. -/
lemma told_follow (h : e.MovesHead l)
    (hfresh : ∀ b, e = .added l b 0 → (v.lanes l).head? = some b) :
    (v.follow e).told l = (v.lanes l).head?.map (·.number) := by
  cases e with
  | added l' b place =>
    obtain ⟨rfl, rfl⟩ := h
    rw [hfresh b rfl]
    exact told_tell v l' b
  | removed l' b removal =>
    obtain ⟨rfl, hmoved⟩ := h
    simp only [follow, hmoved, if_true]
    cases (v.lanes l').head? with
    | none => exact Function.update_self ..
    | some c => exact told_tell v l' c

/-- Who is told gets a notice, unless it was told last. -/
lemma sent_tell : (v.tell l b).sent = v.sent ++ announcement l (v.told l) (some b) := by
  simp only [tell, announcement]
  split
  · exact (List.append_nil _).symm
  · rfl

/-- Following up a change that moves the head announces the head that there is, provided that a
booking at the front of its lane is still the head. -/
lemma sent_follow (h : e.MovesHead l)
    (hfresh : ∀ b, e = .added l b 0 → (v.lanes l).head? = some b) :
    (v.follow e).sent = v.sent ++ announcement l (v.told l) (v.lanes l).head? := by
  cases e with
  | added l' b place =>
    obtain ⟨rfl, rfl⟩ := h
    rw [hfresh b rfl]
    exact sent_tell
  | removed l' b removal =>
    obtain ⟨rfl, hmoved⟩ := h
    simp only [follow, hmoved, if_true]
    cases (v.lanes l').head? with
    | none => exact (List.append_nil _).symm
    | some c => exact sent_tell

/-- Who counts as told last was sent the last notice. -/
def Remembers (v : Herald) : Prop :=
  ∀ l n, v.told l = some n → (lastHeadNotice l v.sent).map (·.number) = some n

/-- Following a change up keeps in mind who was sent the last notice. -/
lemma Remembers.follow (h : v.Remembers) (e : LaneEvent) : (v.follow e).Remembers := by
  have hfollowed := v.followed e
  generalize v.follow e = w at hfollowed ⊢
  intro l n hn
  cases hfollowed with
  | silent => exact h l n hn
  | @vacated l' hnone =>
    by_cases hl : l = l'
    · subst hl
      simp at hn
    · exact h l n ((Function.update_of_ne hl _ _).symm.trans hn)
  | @noticed l' b hnew hwho =>
    dsimp only at hn ⊢
    rw [lastHeadNotice_append]
    by_cases hl : l = l'
    · subst hl
      simpa using hn
    · rw [if_neg hl]
      exact h l n ((Function.update_of_ne hl _ _).symm.trans hn)

/-- What holds of a herald at all times. -/
structure Sound (v : Herald) : Prop where
  /-- A lane whose head was not moved by anything pending knows its head. -/
  settled : ∀ l : Lane, l.repo.Colonless → (∀ e ∈ v.pending, ¬ e.MovesHead l) →
    v.told l = (v.lanes l).head?.map (·.number)
  /-- Who was booked at the front of a lane is its head until something moves the head again. -/
  fresh : ∀ l : Lane, l.repo.Colonless → ∀ before b after,
    v.pending = before ++ .added l b 0 :: after → (∀ e ∈ after, ¬ e.MovesHead l) →
    (v.lanes l).head? = some b
  remembers : v.Remembers

namespace Sound

/-- A herald of empty lanes with nothing pending and nothing sent is sound. -/
lemma of_empty (hlanes : ∀ l, v.lanes l = []) (htold : ∀ l, v.told l = none)
    (hpending : v.pending = []) : v.Sound where
  settled l _ _ := by simp [hlanes, htold]
  fresh l _ before b after h := by simp [hpending] at h
  remembers l n h := by simp [htold] at h

/-- A request keeps a herald sound.

**Proof sketch.** If the new change does not move the head of a lane, nothing is different for the
lane. If it does, only the case of a booking at the front says anything, and that booking is the
head. -/
lemma asked (h : v.Sound) (ha : Asked l v w) : w.Sound := by
  cases ha with
  | unchanged => exact h
  | @changed lanes e he htrue hlanes =>
    refine ⟨fun l' hl' hmoves => ?_, fun l' hl' before b after hpending hmoves => ?_, h.remembers⟩
    · have hnot := hmoves e (by simp)
      dsimp only
      rw [hlanes l' hl', e.head?_apply htrue hnot]
      exact h.settled l' hl' fun e' he' => hmoves e' (by simp [he'])
    · dsimp only
      rw [hlanes l' hl']
      rcases after.eq_nil_or_concat with rfl | ⟨after, e', rfl⟩
      · obtain ⟨-, hlast⟩ := List.append_inj' hpending rfl
        obtain rfl : e = .added l' b 0 := List.head_eq_of_cons_eq hlast
        exact LaneEvent.head?_apply_added htrue
      · have hcut : v.pending ++ [e] = (before ++ .added l' b 0 :: after) ++ [e'] := by
          simpa using hpending
        obtain ⟨hbefore, hlast⟩ := List.append_inj' hcut rfl
        obtain rfl : e = e' := List.head_eq_of_cons_eq hlast
        rw [e.head?_apply htrue (hmoves e (by simp))]
        exact h.fresh l' hl' before b after hbefore fun e' he' => hmoves e' (by simp [he'])

/-- Following up the first pending change keeps a herald sound.

**Proof sketch.** If nothing behind it moves the head of a lane, then its own follow-up tells the
right one if it moves the head itself, and otherwise the right one was told before. -/
lemma next (h : v.Sound) : v.next.Sound := by
  unfold Herald.next
  cases hpending : v.pending with
  | nil => exact h
  | cons e rest =>
    refine ⟨fun l hl hmoves => ?_, fun l hl before b after hsplit hmoves => ?_,
      Remembers.follow (v := { v with pending := rest }) h.remembers e⟩
    · simp only [pending_follow] at hmoves
      simp only [lanes_follow]
      by_cases he : e.MovesHead l
      · refine told_follow he fun b hb => ?_
        exact h.fresh l hl [] b rest (by rw [hpending, hb]; rfl) hmoves
      · rw [told_follow_of_not_movesHead he]
        refine h.settled l hl fun e' he' => ?_
        rw [hpending] at he'
        rcases List.mem_cons.1 he' with rfl | he'
        · exact he
        · exact hmoves e' he'
    · simp only [pending_follow] at hsplit
      simp only [lanes_follow]
      exact h.fresh l hl (e :: before) b after (by rw [hpending, hsplit]; rfl) hmoves

/-- Following up all that is pending keeps a herald sound. -/
lemma catchUp (h : v.Sound) : v.catchUp.Sound := by
  induction hpending : v.pending generalizing v with
  | nil => rwa [catchUp_of_idle hpending]
  | cons e rest ih =>
    rw [← catchUp_next]
    exact ih h.next (by simp [Herald.next, hpending])

/-- A request that is followed up at once announces the new head of its lane.

**Proof sketch.** With nothing else pending, the old head is the one that was told last. If the
change moves the head, its follow-up announces the head that there is by then. If it does not, the
head is the old one, which calls for no notice. -/
lemma sent_catchUp (h : v.Sound) (hidle : v.pending = []) (hl : l.repo.Colonless)
    (ha : Asked l v w) :
    w.catchUp.sent =
      v.sent ++ announcement l ((v.lanes l).head?.map (·.number)) (w.lanes l).head? := by
  cases ha with
  | unchanged => rw [catchUp_of_idle hidle, announcement_self, List.append_nil]
  | @changed lanes e he htrue hlanes =>
    rw [← h.settled l hl (by simp [hidle])]
    simp only [Herald.catchUp, hidle, List.nil_append, List.foldl_cons, List.foldl_nil]
    by_cases hmoves : e.MovesHead l
    · refine sent_follow hmoves fun b hb => ?_
      subst hb
      exact (congrArg List.head? (hlanes l hl)).trans (LaneEvent.head?_apply_added htrue)
    · have hhead : (lanes l).head? = (v.lanes l).head? :=
        (congrArg List.head? (hlanes l hl)).trans (e.head?_apply htrue hmoves)
      rw [follow_of_not_movesHead (he ▸ hmoves), hhead, h.settled l hl (by simp [hidle]),
        announcement_self, List.append_nil]

end Sound

end Herald

/-! ## The roll after requests -/

namespace Roll

/-- The roll after requests, one after the other. -/
noncomputable def serveAll (w : Roll) (rs : List Desk.Request) : Roll :=
  rs.foldl (fun w r => (w.serve r).store) w

/-- A request is about one lane of the roll. -/
lemma lanes_serve_of_ne {r : Desk.Request} {l : Lane} (h : l ≠ r.lane) (w : Roll) :
    (w.serve r).store.lanes l = w.lanes l := by
  cases r with
  | book l' b =>
    simp only [serve, Turn.map, book]
    split_ifs
    · rfl
    · rfl
    · rfl
    · rfl
    · exact (lanes_put ..).trans (if_neg h)
  | unbook l' n closed =>
    simp only [serve, Turn.map, unbook]
    split_ifs
    · rfl
    · split
      · rfl
      · exact (lanes_put ..).trans (if_neg h)

/-- The head of a lane of the store is that of the lane of the roll. -/
lemma Agrees.head {m : Memory} {w : Roll} (h : Agrees m w) {l : Lane} (hl : l.repo.Colonless) :
    (Desk.head l m).answer = w.ask (w.lanes l).head? := by
  have hlist : m.shelves.bookings l.storeKey = w.lanes l := h.lanes l hl
  simp only [Roll.ask, ← h.online, ← hlist, Desk.head, Store.readRange, Memory.read]
  by_cases ho : m.online = true
  · simp [ho, Turn.ask, Turn.done, Shelves.front, List.head?_take]
  · simp [ho, Turn.ask, Turn.fail]

end Roll

namespace Service

variable {s t : Service Memory}

/-! ## Runs with late tasks -/

/-- The store serves, and the herald is sound. -/
structure Attended (s : Service Memory) : Prop where
  serving : s.store.Serving
  sound : s.herald.Sound

/-- A service that has just been started over an empty store is attended to. -/
lemma attended_start (rules : Rules) {m : Memory} (registry : Registry) (room : Nat)
    (clients : Clients) (hm : m.shelves = Shelves.empty) (hserving : m.Serving) :
    Attended { start rules m registry room with clients } where
  serving := hserving
  sound := by
    refine .of_empty (fun l => ?_) (fun l => ?_) rfl
    · exact congrArg (fun k : Books => k.list l.storeKey)
        ((congrArg Shelves.books hm).trans Shelves.books_empty)
    · simp [herald, start, Dispatch.empty]

namespace Attended

variable (h : Attended s)
include h

/-- A request keeps a service attended to. -/
lemma request {r : Desk.Request} (hr : r.lane.repo.Colonless) : Attended (s.request r) where
  serving := serving_step h.serving (.request r)
  sound := h.sound.asked (herald_request hr s)

/-- A task keeps a service attended to. -/
lemma runNext : Attended s.runNext where
  serving := serving_step h.serving .task
  sound := by
    rcases herald_runNext_cases h.serving.online with ⟨e, rest, -, -, hnext⟩ | hsame
    · exact hnext ▸ h.sound.next
    · exact hsame ▸ h.sound

/-- A step keeps a service attended to. -/
lemma step {x : Step} (hx : x.Colonless) : Attended (s.step x) := by
  cases x with
  | request r => exact h.request hx
  | task => exact h.runNext

/-- A run keeps a service attended to. -/
lemma play {steps : List Step} (hc : ∀ x ∈ steps, x.Colonless) : Attended (play steps s) := by
  induction steps generalizing s with
  | nil => exact h
  | cons x steps ih =>
    obtain ⟨hx, hrest⟩ := List.forall_mem_cons.1 hc
    exact ih (h.step hx) hrest

/-- Running all tasks keeps a service attended to. -/
lemma settle : Attended s.settle := by
  obtain ⟨hstore, -, hherald⟩ := herald_settle h.serving.online
  exact ⟨hstore ▸ h.serving, hherald ▸ h.sound.catchUp⟩

end Attended

/-- When no task is left, no head is forgotten. After any run of requests, with the tasks delayed
past any number of requests, the head of each lane is the one that was told last, and the last
notice about the lane is the one to it; a lane without a head is known to have none. -/
theorem heads_settle {rules : Rules} {m : Memory} {registry : Registry} {room : Nat}
    {clients : Clients} {steps : List Step} (hm : m.shelves = Shelves.empty)
    (hserving : m.Serving) (hc : ∀ x ∈ steps, x.Colonless)
    (hrun : play steps { start rules m registry room with clients } = s) (hidle : s.tasks = [])
    {l : Lane} (hl : l.repo.Colonless) :
    ∃ head, (Desk.head l s.store).answer = .ok head ∧
      s.dispatch.heads[l]? = head.map (·.number) ∧
      ∀ b, head = some b →
        (lastHeadNotice l (headNotices s.ledger.notices)).map (·.number) = some b.number := by
  subst hrun
  have h := (attended_start rules registry room clients hm hserving).play hc
  generalize play steps { start rules m registry room with clients } = s at h hidle
  have htold : s.dispatch.heads[l]? = (s.store.lanes l).head?.map (·.number) :=
    h.sound.settled l hl (by simp [herald, hidle])
  refine ⟨_, congrArg Prod.fst (atDesk_head h.serving.online l), htold, fun b hb => ?_⟩
  exact h.sound.remembers l b.number (htold.trans (by rw [hb]; rfl))

/-- A service without a file, before anything is asked of it. -/
def fresh : Service Memory := start ⟨"merge-turn", 0⟩ Memory.volatile Registry.volatile 0

/-- A booking is taken out and another one takes its place, and then all tasks run. -/
def overtakenRun : List Step :=
  [.request (.book Desk.mainLane (Desk.sampleBooking 7 "mona")),
    .request (.unbook Desk.mainLane ⟨7⟩ false),
    .request (.book Desk.mainLane (Desk.sampleBooking 8 "hubot"))] ++ List.replicate 12 .task

/-- After that run the second booking is the head, and was told last. -/
theorem heads_settle_overtaken :
    let s := play overtakenRun fresh
    s.tasks = [] ∧ s.dispatch.heads[Desk.mainLane]? = some ⟨8⟩ ∧
      (lastHeadNotice Desk.mainLane (headNotices s.ledger.notices)).map (·.number) = some ⟨8⟩ := by
  have hidle : (play overtakenRun fresh).tasks = [] := by decide +kernel
  have hhead : (Desk.head Desk.mainLane (play overtakenRun fresh).store).answer =
      .ok (some (Desk.sampleBooking 8 "hubot")) := by decide +kernel
  have hrun : play overtakenRun { start ⟨"merge-turn", 0⟩ Memory.volatile Registry.volatile 0 with
      clients := .willing } = play overtakenRun fresh := rfl
  obtain ⟨head, hread, htold, hlast⟩ := heads_settle rfl
    ⟨rfl, Memory.writable_of_backing_none rfl⟩ (by decide) hrun hidle (l := Desk.mainLane)
    (by decide)
  cases hhead.symm.trans hread
  exact ⟨hidle, htold, hlast _ rfl⟩

/-! ## Runs without late tasks -/

/-- A service that is attended to, that reads like a roll, and that has no task left. -/
structure Settled (s : Service Memory) (w : Roll) : Prop extends Attended s where
  agrees : Roll.Agrees s.store w
  idle : s.tasks = []

namespace Settled

variable {w : Roll} (h : Settled s w)
include h

/-- The head of a lane can be read, and is that of the roll. -/
lemma head {l : Lane} (hl : l.repo.Colonless) :
    (Desk.head l s.store).answer = .ok (w.lanes l).head? := by
  rw [h.agrees.head hl, Roll.ask, ← h.agrees.online, h.serving.online, if_pos rfl]

variable {r : Desk.Request} (hr : r.lane.repo.Colonless)
include hr

/-- A request with all its tasks leaves a service that reads like the roll after the request. -/
lemma round : Settled (s.request r).settle (w.serve r).store := by
  have ha := h.toAttended.request hr
  obtain ⟨hstore, hidle, -⟩ := herald_settle ha.serving.online
  refine ⟨ha.settle, ?_, hidle⟩
  rw [hstore, store_request]
  exact (h.agrees.serve hr).store

/-- A request with all its tasks announces the new head of its lane. -/
lemma notices : headNotices (s.request r).settle.ledger.notices =
    headNotices s.ledger.notices ++ announcement r.lane
      ((w.lanes r.lane).head?.map (·.number)) ((w.serve r).store.lanes r.lane).head? := by
  have hbefore : s.herald.lanes r.lane = w.lanes r.lane := h.agrees.lanes _ hr
  have hafter : (s.request r).herald.lanes r.lane = (w.serve r).store.lanes r.lane := by
    rw [← (h.agrees.serve hr).store.lanes _ hr, ← store_request]
    rfl
  have hpending : s.herald.pending = [] := by simp [herald, h.idle]
  have hsent := h.sound.sent_catchUp hpending hr (herald_request hr s)
  rw [hbefore, hafter, ← (herald_settle (h.toAttended.request hr).serving.online).2.2] at hsent
  exact hsent

end Settled

/-- Requests with all their tasks leave a service that reads like the roll after the requests. -/
lemma Settled.rounds {w : Roll} (h : Settled s w) {rs : List Desk.Request}
    (hc : ∀ r ∈ rs, r.lane.repo.Colonless) : Settled (rounds rs s) (w.serveAll rs) := by
  induction rs generalizing s w with
  | nil => exact h
  | cons r rs ih =>
    obtain ⟨hr, hrest⟩ := List.forall_mem_cons.1 hc
    exact ih (h.round hr) hrest

/-- Each time that a head comes about it is told so once, and nobody else is told anything. After
any requests with all their tasks, one more request with all its tasks sends the notice that the
new head of its lane calls for, with the name under which it was booked, and no notice if the head
is the one from before or there is none; the other lanes stay as they are. -/
theorem notices_of_round {rules : Rules} {m : Memory} {registry : Registry} {room : Nat}
    {clients : Clients} {rs : List Desk.Request} {r : Desk.Request}
    (hm : m.shelves = Shelves.empty) (hserving : m.Serving)
    (hc : ∀ x ∈ rs, x.lane.repo.Colonless) (hr : r.lane.repo.Colonless)
    (hrun : rounds rs { start rules m registry room with clients } = s)
    (hround : (s.request r).settle = t) :
    let before := (Roll.empty true).serveAll rs
    let after := (before.serve r).store
    t.tasks = [] ∧
    (∀ l : Lane, l.repo.Colonless → (Desk.head l s.store).answer = .ok (before.lanes l).head?) ∧
    (∀ l : Lane, l.repo.Colonless → (Desk.head l t.store).answer = .ok (after.lanes l).head?) ∧
    (∀ l : Lane, l ≠ r.lane → after.lanes l = before.lanes l) ∧
    headNotices t.ledger.notices = headNotices s.ledger.notices ++ announcement r.lane
      ((before.lanes r.lane).head?.map (·.number)) (after.lanes r.lane).head? := by
  intro before after
  subst hrun hround
  have hstart : Settled { start rules m registry room with clients } (Roll.empty true) :=
    ⟨attended_start rules registry room clients hm hserving,
      hserving.online ▸ Roll.agrees_empty hm hserving.writable, rfl⟩
  have h := hstart.rounds hc
  exact ⟨(h.round hr).idle, fun l hl => h.head hl, fun l hl => (h.round hr).head hl,
    fun l hl => Roll.lanes_serve_of_ne hl _, h.notices hr⟩

/-- Two bookings come and go. -/
def vacatedRun : List Desk.Request :=
  [.book Desk.mainLane (Desk.sampleBooking 7 "mona"),
    .book Desk.mainLane (Desk.sampleBooking 8 "hubot"), .unbook Desk.mainLane ⟨7⟩ false,
    .unbook Desk.mainLane ⟨8⟩ true]

/-- Booked once more, the first of the two is told once more that it is the head. -/
theorem notices_of_round_returning :
    headNotices (rounds vacatedRun fresh).ledger.notices =
      [⟨Desk.mainLane, ⟨7⟩, "mona"⟩, ⟨Desk.mainLane, ⟨8⟩, "hubot"⟩] ∧
    headNotices (((rounds vacatedRun fresh).request
        (.book Desk.mainLane (Desk.sampleBooking 7 "mona"))).settle).ledger.notices =
      [⟨Desk.mainLane, ⟨7⟩, "mona"⟩, ⟨Desk.mainLane, ⟨8⟩, "hubot"⟩,
        ⟨Desk.mainLane, ⟨7⟩, "mona"⟩] := by
  have hsent : headNotices (rounds vacatedRun fresh).ledger.notices =
      [⟨Desk.mainLane, ⟨7⟩, "mona"⟩, ⟨Desk.mainLane, ⟨8⟩, "hubot"⟩] := by decide +kernel
  have hnone : (Desk.head Desk.mainLane (rounds vacatedRun fresh).store).answer = .ok none := by
    decide +kernel
  have hsome : (Desk.head Desk.mainLane ((rounds vacatedRun fresh).request
      (.book Desk.mainLane (Desk.sampleBooking 7 "mona"))).settle.store).answer =
      .ok (some (Desk.sampleBooking 7 "mona")) := by
    decide +kernel
  have hrun : rounds vacatedRun { start ⟨"merge-turn", 0⟩ Memory.volatile Registry.volatile 0 with
      clients := .willing } = rounds vacatedRun fresh := rfl
  obtain ⟨-, hbefore, hafter, -, hround⟩ := notices_of_round
    (r := .book Desk.mainLane (Desk.sampleBooking 7 "mona")) rfl
    ⟨rfl, Memory.writable_of_backing_none rfl⟩ (by decide) (by decide) hrun rfl
  have hold := Except.ok.inj (hnone.symm.trans (hbefore Desk.mainLane (by decide)))
  have hnew := Except.ok.inj (hsome.symm.trans (hafter Desk.mainLane (by decide)))
  refine ⟨hsent, hround.trans ?_⟩
  simp only [Desk.Request.lane, ← hold, ← hnew]
  exact congrArg (· ++ _) hsent

end Service

end MergeTurn
