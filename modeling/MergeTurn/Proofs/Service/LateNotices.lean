import MergeTurn.Proofs.Service.HeadNotices

set_option autoImplicit false

/-!
# Notices that come too late

Of the two changes that can bring about a head, only a removal is followed up with a look at the
lane as it is by then. A booking at the front of its lane is followed up with a notice to who was
booked, who may have left in the meantime. Whether this happens is all that decides whether the
notices of a run are right: if it does not, each notice names a head, and no head is told twice
while it stays.

## Main definitions

* `MergeTurn.Service.Throughout` — a property of each step of a run.
* `MergeTurn.Service.TellsHeads` — the notices that a step sends name heads.
* `MergeTurn.Service.TellsOnce` — no head is told twice while it stays.
* `MergeTurn.Service.Timely` — both of these hold of a run.
* `MergeTurn.Service.FollowsInTime` — a step does not follow a booking up too late.

## Main results

* `MergeTurn.Service.tellsHeads_iff` — the only step that may tell a wrong head is one that follows
  a booking up too late.
* `MergeTurn.Service.timesNamed_sentSince` — if only heads are told, each is told once while it
  stays.
* `MergeTurn.Service.timely_iff` — the notices of a run are right exactly if no booking is followed
  up too late.
-/

namespace MergeTurn.Service

variable {s : Service Memory} {x : Step} {steps : List Step} {l : Lane} {n : PullNumber}

/-! ## Right notices -/

/-- Each step of a run has a property in the state in which it is taken. -/
def Throughout (P : Step → Service Memory → Prop) : List Step → Service Memory → Prop
  | [], _ => True
  | x :: steps, s => P x s ∧ Throughout P steps (s.step x)

/-- A property of steps that can be decided can be decided of runs. -/
instance Throughout.decidable (P : Step → Service Memory → Prop) [∀ x s, Decidable (P x s)] :
    (steps : List Step) → (s : Service Memory) → Decidable (Throughout P steps s)
  | [], _ => isTrue trivial
  | x :: steps, s =>
    have := Throughout.decidable P steps (s.step x)
    inferInstanceAs (Decidable (P x s ∧ Throughout P steps (s.step x)))

/-- A pull request is read to be the head of a lane. -/
def IsHead (l : Lane) (n : PullNumber) (s : Service Memory) : Prop :=
  (Desk.head l s.store).answer.map (·.map (·.number)) = .ok (some n)
deriving Decidable

/-- The notices of heads that were sent between a state and a later one. -/
def sentSince (s t : Service Memory) : List HeadNotice :=
  (headNotices t.ledger.notices).drop (headNotices s.ledger.notices).length

/-- How many notices name a pull request as the head of a lane. -/
def timesNamed (l : Lane) (n : PullNumber) (gs : List HeadNotice) : Nat :=
  gs.countP fun g => g.lane = l ∧ g.number = n

/-- The notices that a step sends name heads. -/
def TellsHeads (x : Step) (s : Service Memory) : Prop :=
  ∀ g ∈ sentSince s (s.step x), IsHead g.lane g.number s
deriving Decidable

/-- While a pull request is the head of a lane, from any step of a run on to any later one, it is
told so at most once. -/
def TellsOnce (steps : List Step) (s : Service Memory) : Prop :=
  ∀ before during after, steps = before ++ during ++ after → ∀ l n,
    Throughout (fun _ t => IsHead l n t) during (play before s) →
    timesNamed l n (sentSince (play before s) (play (before ++ during) s)) ≤ 1

/-- The notices of a run are right: they name heads, and no head is told twice while it stays. -/
structure Timely (steps : List Step) (s : Service Memory) : Prop where
  names : Throughout TellsHeads steps s
  once : TellsOnce steps s

/-- If a step follows a booking at the front of a lane up, then who was booked there is the head, or
was told last. -/
def FollowsInTime (x : Step) (s : Service Memory) : Prop :=
  match x, s.tasks with
  | .task, ⟨.noticeHead, .lane (.added l b 0)⟩ :: _ =>
    s.dispatch.heads[l]? = some b.number ∨ IsHead l b.number s
  | _, _ => True

instance : Decidable (FollowsInTime x s) := by
  unfold FollowsInTime
  split <;> infer_instance

/-- The notices that were sent since a state are those that follow the ones sent before. -/
lemma sentSince_of_append {t : Service Memory} {gs : List HeadNotice}
    (h : t.herald.sent = s.herald.sent ++ gs) : sentSince s t = gs := by
  have hsince : sentSince s t = t.herald.sent.drop s.herald.sent.length := rfl
  rw [hsince, h, List.drop_left]

/-- A store that serves answers with the head of the lane. -/
lemma isHead_iff (h : s.store.Serving) :
    IsHead l n s ↔ (s.store.lanes l).head?.map (·.number) = some n := by
  have hread : (Desk.head l s.store).answer = .ok (s.store.lanes l).head? :=
    congrArg Prod.fst (atDesk_head h.online l)
  rw [IsHead, hread]
  exact ⟨Except.ok.inj, congrArg _⟩

/-! ## What a step tells -/

/-- What a step can do to whom was told last and to what was sent: nothing; it can note that a lane
has no head; or, as a task that follows a change up, it can tell somebody who was not told last and
who either was booked at the front of its lane by that change, or is the head. -/
inductive Telling (x : Step) (s t : Service Memory) : Prop
  | silent (htold : t.herald.told = s.herald.told) (hsent : t.herald.sent = s.herald.sent)
  | vacated {l : Lane} (hnone : (s.store.lanes l).head? = none)
    (htold : t.herald.told = Function.update s.herald.told l none)
    (hsent : t.herald.sent = s.herald.sent)
  | noticed {l : Lane} {b : Booking} {e : LaneEvent} {rest : List Task} (hx : x = .task)
    (htasks : s.tasks = ⟨.noticeHead, .lane e⟩ :: rest)
    (hnew : s.herald.told l ≠ some b.number)
    (hwho : e = .added l b 0 ∨ (s.store.lanes l).head? = some b)
    (htold : t.herald.told = Function.update s.herald.told l (some b.number))
    (hsent : t.herald.sent = s.herald.sent ++ [⟨l, b.number, b.username⟩])

/-- A step tells nobody in any other way. -/
lemma telling_step (h : s.store.Serving) (hx : x.Colonless) : Telling x s (s.step x) := by
  cases x with
  | request r =>
    have hasked := herald_request hx s
    generalize hv : (s.request r).herald = v at hasked
    have htold : (s.request r).herald.told = v.told := congrArg Herald.told hv
    have hsent : (s.request r).herald.sent = v.sent := congrArg Herald.sent hv
    cases hasked with
    | unchanged => exact .silent htold hsent
    | changed => exact .silent htold hsent
  | task =>
    rcases herald_runNext_cases h.online with ⟨e, rest, htasks, hpending, hnext⟩ | hsame
    · rw [Herald.next_of_pending hpending] at hnext
      have hfollowed := Herald.followed
        { s.herald with pending := rest.filterMap Task.headChange? } e
      generalize Herald.follow e _ = v at hnext hfollowed
      have htold : s.runNext.herald.told = v.told := congrArg Herald.told hnext
      have hsent : s.runNext.herald.sent = v.sent := congrArg Herald.sent hnext
      cases hfollowed with
      | silent => exact .silent htold hsent
      | vacated hnone => exact .vacated hnone htold hsent
      | noticed hnew hwho => exact .noticed rfl htasks hnew hwho htold hsent
    · exact .silent (congrArg Herald.told hsame) (congrArg Herald.sent hsame)

/-- A step tells heads only, exactly if it does not follow a booking up too late. -/
lemma tellsHeads_iff (h : s.store.Serving) (hx : x.Colonless) :
    TellsHeads x s ↔ FollowsInTime x s := by
  constructor
  · intro htells
    unfold FollowsInTime
    split
    · next l b rest htasks =>
      by_cases htold : s.dispatch.heads[l]? = some b.number
      · exact .inl htold
      · obtain ⟨hpending, hnext⟩ := herald_runNext h.online htasks
        have hsent : s.runNext.herald.sent = s.herald.sent ++ [⟨l, b.number, b.username⟩] := by
          rw [hnext, Herald.next_of_pending hpending]
          exact Herald.sent_tell.trans (congrArg (_ ++ ·) (if_neg htold))
        refine .inr (htells ⟨l, b.number, b.username⟩ ?_)
        exact sentSince_of_append hsent ▸ List.mem_singleton_self _
    · trivial
  · intro htime g hg
    cases telling_step h hx with
    | silent _ hsent =>
      rw [sentSince_of_append (hsent.trans (List.append_nil _).symm)] at hg
      cases hg
    | vacated _ _ hsent =>
      rw [sentSince_of_append (hsent.trans (List.append_nil _).symm)] at hg
      cases hg
    | @noticed l b e rest hx htasks hnew hwho _ hsent =>
      rw [sentSince_of_append hsent] at hg
      obtain rfl := List.mem_singleton.1 hg
      rcases hwho with rfl | hhead
      · subst hx
        simp only [FollowsInTime, htasks] at htime
        exact htime.resolve_left hnew
      · exact (isHead_iff h).2 (by rw [hhead]; rfl)

/-! ## What a run tells -/

/-- A property of a run is one of its beginning, and of the rest from where the beginning ended. -/
lemma throughout_append (P : Step → Service Memory → Prop) (steps more : List Step)
    (s : Service Memory) :
    Throughout P (steps ++ more) s ↔ Throughout P steps s ∧ Throughout P more (play steps s) := by
  induction steps generalizing s with
  | nil => exact (iff_of_eq (true_and _)).symm
  | cons x steps ih => exact (and_congr_right fun _ => ih (s.step x)).trans and_assoc.symm

/-- A run tells heads only, exactly if it follows no booking up too late. -/
lemma throughout_tellsHeads_iff (h : s.store.Serving) (hc : ∀ x ∈ steps, x.Colonless) :
    Throughout TellsHeads steps s ↔ Throughout FollowsInTime steps s := by
  induction steps generalizing s with
  | nil => exact Iff.rfl
  | cons x steps ih =>
    obtain ⟨hx, hrest⟩ := List.forall_mem_cons.1 hc
    exact and_congr (tellsHeads_iff h hx) (ih (serving_step h x) hrest)

/-- What a step sends comes after what was sent before. -/
lemma sent_prefix_step (h : s.store.Serving) (hx : x.Colonless) :
    s.herald.sent <+: (s.step x).herald.sent := by
  cases telling_step h hx with
  | silent _ hsent => exact hsent ▸ List.prefix_rfl
  | vacated _ _ hsent => exact hsent ▸ List.prefix_rfl
  | noticed _ _ _ _ _ hsent => exact hsent ▸ List.prefix_append ..

/-- What a run sends comes after what was sent before. -/
lemma sent_prefix_play (h : s.store.Serving) (hc : ∀ x ∈ steps, x.Colonless) :
    s.herald.sent <+: (play steps s).herald.sent := by
  induction steps generalizing s with
  | nil => exact List.prefix_rfl
  | cons x steps ih =>
    obtain ⟨hx, hrest⟩ := List.forall_mem_cons.1 hc
    exact (sent_prefix_step h hx).trans (ih (serving_step h x) hrest)

/-- A step that tells heads only uses up the one notice that a head may get while it stays.

**Proof sketch.** A notice about the lane names its head, which was not told last before and is told
last after it. Nothing else makes the lane forget its head as long as it has one. -/
lemma timesNamed_step (h : s.store.Serving) (hx : x.Colonless) (htells : TellsHeads x s)
    (hhead : IsHead l n s) :
    timesNamed l n (s.step x).herald.sent + (if (s.step x).herald.told l = some n then 0 else 1) ≤
      timesNamed l n s.herald.sent + (if s.herald.told l = some n then 0 else 1) := by
  cases telling_step h hx with
  | silent htold hsent => exact Nat.le_of_eq (by rw [htold, hsent])
  | @vacated l' hnone htold hsent =>
    have hne : l ≠ l' := by
      rintro rfl
      rw [isHead_iff h, hnone] at hhead
      cases hhead
    exact Nat.le_of_eq (by rw [htold, hsent, Function.update_of_ne hne])
  | @noticed l' b e rest _ _ hnew _ htold hsent =>
    have hnamed : IsHead l' b.number s :=
      htells ⟨l', b.number, b.username⟩ (sentSince_of_append hsent ▸ List.mem_singleton_self _)
    by_cases hl : l = l'
    · subst hl
      obtain rfl : b.number = n :=
        Option.some.inj (((isHead_iff h).1 hnamed).symm.trans ((isHead_iff h).1 hhead))
      rw [htold, hsent, Function.update_self, if_pos rfl, if_neg hnew]
      simp [timesNamed]
    · rw [htold, hsent, Function.update_of_ne hl]
      simp [timesNamed, Ne.symm hl]

/-- So does a run as long as the head stays. -/
lemma timesNamed_play (h : s.store.Serving) (hc : ∀ x ∈ steps, x.Colonless)
    (htells : Throughout TellsHeads steps s)
    (hhead : Throughout (fun _ t => IsHead l n t) steps s) :
    timesNamed l n (play steps s).herald.sent +
        (if (play steps s).herald.told l = some n then 0 else 1) ≤
      timesNamed l n s.herald.sent + (if s.herald.told l = some n then 0 else 1) := by
  induction steps generalizing s with
  | nil => exact Nat.le_refl _
  | cons x steps ih =>
    obtain ⟨hx, hrest⟩ := List.forall_mem_cons.1 hc
    exact Nat.le_trans (ih (serving_step h x) hrest htells.2 hhead.2)
      (timesNamed_step h hx htells.1 hhead.1)

/-- A run that tells heads only tells each at most once while it stays. -/
lemma timesNamed_sentSince (h : s.store.Serving) (hc : ∀ x ∈ steps, x.Colonless)
    (htells : Throughout TellsHeads steps s)
    (hhead : Throughout (fun _ t => IsHead l n t) steps s) :
    timesNamed l n (sentSince s (play steps s)) ≤ 1 := by
  obtain ⟨gs, hgs⟩ := sent_prefix_play h hc
  have hcount := timesNamed_play h hc htells hhead
  rw [← hgs, timesNamed, List.countP_append] at hcount
  rw [sentSince_of_append hgs.symm]
  simp only [timesNamed] at hcount ⊢
  split_ifs at hcount <;> omega

/-- The notices of a run are right exactly if no booking is followed up too late. Whatever the tasks
wait for, each notice names who is the head when it is sent, and no head is told twice while it
stays, provided that whenever a booking at the front of a lane is followed up, who was booked is
the head, or was told last; and if that is not so once, the notice that is sent then is wrong. -/
theorem timely_iff (h : s.store.Serving) (hc : ∀ x ∈ steps, x.Colonless) :
    Timely steps s ↔ Throughout FollowsInTime steps s := by
  rw [← throughout_tellsHeads_iff h hc]
  refine ⟨Timely.names, fun htells => ⟨htells, ?_⟩⟩
  rintro before during after rfl l n hhead
  rw [List.forall_mem_append, List.forall_mem_append] at hc
  obtain ⟨hbefore, -⟩ := (throughout_append TellsHeads (before ++ during) after s).1 htells
  obtain ⟨-, hduring⟩ := (throughout_append TellsHeads before during s).1 hbefore
  rw [play_append]
  exact timesNamed_sentSince (serving_play h before) hc.1.2 hduring hhead

/-- A booking is followed up after it has been taken out. -/
def goneRun : List Step :=
  [.request (.book Desk.mainLane (Desk.sampleBooking 7 "mona")),
    .request (.unbook Desk.mainLane ⟨7⟩ false)] ++ List.replicate 8 .task

/-- A head is told so. Then it is taken out, another booking comes and goes, and a third one stays
before any of that is followed up. -/
def swingingRun : List Step :=
  .request (.book Desk.mainLane (Desk.sampleBooking 5 "hubot")) :: List.replicate 4 .task ++
    [.request (.unbook Desk.mainLane ⟨5⟩ true),
      .request (.book Desk.mainLane (Desk.sampleBooking 8 "hubot")),
      .request (.unbook Desk.mainLane ⟨8⟩ false),
      .request (.book Desk.mainLane (Desk.sampleBooking 7 "mona"))] ++ List.replicate 16 .task

/-- In the first of these runs a notice names somebody who is not the head. In the second, the head
that stays is told so, somebody else is, and then the head once more. -/
theorem not_timely_late :
    ¬ Throughout TellsHeads goneRun fresh ∧ ¬ TellsOnce swingingRun fresh := by
  refine ⟨by decide +kernel, fun honce => ?_⟩
  have hstays : Throughout (fun _ t => IsHead Desk.mainLane ⟨7⟩ t) (List.replicate 16 .task)
      (play (swingingRun.take 9) fresh) := by decide +kernel
  have htwice : timesNamed Desk.mainLane ⟨7⟩
      (sentSince (play (swingingRun.take 9) fresh) (play swingingRun fresh)) = 2 := by
    decide +kernel
  have hatMost := honce (swingingRun.take 9) (List.replicate 16 .task) [] rfl _ _ hstays
  exact absurd (htwice ▸ hatMost) (by decide)

/-- The second booking comes while the first is followed up, and the first is taken out after it. -/
def orderlyRun : List Step :=
  .request (.book Desk.mainLane (Desk.sampleBooking 7 "mona")) ::
  .task :: .request (.book Desk.mainLane (Desk.sampleBooking 8 "hubot")) :: .task ::
  .request (.unbook Desk.mainLane ⟨7⟩ true) :: List.replicate 10 .task

/-- The notices of that run are right. -/
theorem timely_orderly : Timely orderlyRun fresh :=
  (timely_iff ⟨rfl, Memory.writable_of_backing_none rfl⟩ (by decide)).2 (by decide +kernel)

end MergeTurn.Service
