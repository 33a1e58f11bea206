import MergeTurn.Proofs.Desk.Whole
import MergeTurn.Proofs.Service.Repairs

set_option autoImplicit false

/-!
# What pages show at every moment

Whether the right labels are on the pages in the end says nothing about the time until then. Here
handlers are followed report by report: something that holds when a handler starts, and that each of
its reports keeps, is so at every moment until it ends.

## Main definitions

* `MergeTurn.ShowsTurn` — a page says that its pull request may be merged.
* `MergeTurn.Through` — something is so of a list, and stays so while the list grows.
* `MergeTurn.Service.Posts` — what is done only posts, and something is so of all that is posted
  before, in between and after.

## Main results

* `MergeTurn.Service.Posts.relabel`, `onAdded`, `labelPlace` — what sets labels.
* `MergeTurn.Service.labelled_settle` — all tasks that follow a change of a lane.
-/

namespace MergeTurn

/-! ## Growing lists -/

/-- Something is so of a list and, as more is put at its end, of each longer one up to another. -/
inductive Through {α : Type} (P : List α → Prop) (u : List α) : List α → Prop
  | refl (h : P u) : Through P u u
  | snoc {v : List α} {x : α} (h : Through P u v) (hx : P (v ++ [x])) : Through P u (v ++ [x])

namespace Through

variable {α : Type} {P Q : List α → Prop} {u v w : List α}

/-- It is so in the end. -/
lemma last (h : Through P u v) : P v := by
  cases h with
  | refl h => exact h
  | snoc _ hx => exact hx

/-- What is so on the way to a list and from there on is so on the whole way. -/
lemma trans (h : Through P u v) (h' : Through P v w) : Through P u w := by
  induction h' with
  | refl _ => exact h
  | snoc _ hx ih => exact ih.snoc hx

/-- What follows from it is so as well. -/
lemma mono (h : Through P u v) (hPQ : ∀ w, P w → Q w) : Through Q u v := by
  induction h with
  | refl h => exact .refl (hPQ _ h)
  | snoc _ hx ih => exact ih.snoc (hPQ _ hx)

/-- A list grows to those that it begins. -/
lemma grows (h : Through P u v) : u <+: v := by
  induction h with
  | refl _ => exact List.prefix_rfl
  | snoc _ _ ih => exact ih.trans (List.prefix_append _ _)

/-- It is so of every list on the way. -/
lemma holds (h : Through P u w) (huv : u <+: v) (hvw : v <+: w) : P v := by
  induction h with
  | refl h => exact (huv.eq_of_length_le hvw.length_le) ▸ h
  | snoc _ hx ih =>
    rcases List.prefix_concat_iff.1 hvw with rfl | hvw
    · exact hx
    · exact ih hvw

end Through

/-! ## Turns -/

/-- A page says that its pull request may be merged. -/
def ShowsTurn (url : String) (reports : List (StatusTarget × StatusReport)) : Prop :=
  ∃ r, lastReport url reports = some r ∧ r.Reads (placeLabel (some 0))

/-- Only the report that was posted last to a page counts. -/
lemma showsTurn_append (url : String) (reports : List (StatusTarget × StatusReport))
    (target : StatusTarget) (report : StatusReport) :
    ShowsTurn url (reports ++ [(target, report)]) ↔
      if url = target.statusUrl then report.Reads (placeLabel (some 0))
      else ShowsTurn url reports := by
  unfold ShowsTurn
  rw [lastReport_append]
  split_ifs <;> simp

/-- Only the label of the first place says that a pull request may be merged. -/
lemma placeLabel_reads_turn {place : Option Nat} (url : String) :
    ((placeLabel place).withTarget url).Reads (placeLabel (some 0)) ↔ place = some 0 := by
  constructor
  · rintro ⟨hstate, -⟩
    rcases place with _ | _ | _ | n
    · cases hstate
    · rfl
    · cases hstate
    · simp only [placeLabel, StatusReport.withTarget] at hstate
      split_ifs at hstate <;> cases hstate
  · rintro rfl
    exact StatusReport.reads_withTarget _ _

/-- The last label of a pull request does not say that it may be merged. -/
lemma Closing.label_not_turn (closing : Closing) (url : String) :
    ¬ (closing.label.withTarget url).Reads (placeLabel (some 0)) := by
  cases closing with
  | merged merger =>
    rintro ⟨-, htext⟩
    have hfirst := congrArg (fun text : String => text.toList.head?) htext
    simp [Closing.label, mergedLabel, placeLabel, StatusReport.plain, StatusReport.withTarget]
      at hfirst
  | dropped => exact placeLabel_none_not_turn url

namespace Service

variable {s t u : Service Memory}

/-! ## Reports one by one -/

/-- The reports that have been delivered. -/
def posted {σ : Type} (s : Service σ) : List (StatusTarget × StatusReport) :=
  delivered s.ledger.reports

/-- What is done changes nothing but what is posted, and something is so of that throughout. -/
structure Posts (P : List (StatusTarget × StatusReport) → Prop) (s t : Service Memory) : Prop where
  store : t.store = s.store
  registry : t.registry = s.registry
  clients : t.clients = s.clients
  tasks : t.tasks = s.tasks
  through : Through P s.posted t.posted

/-- What a question to the store is answered. -/
lemma atDesk_read_eq {α β : Type} (f : α → β) (g : Shelves → α) (s : Service Memory) :
    s.atDesk (fun m => .ask f (m.read g)) =
      (if s.store.refusal? = some Memory.offline then .error (.store Memory.offline)
        else .ok (f (g s.store.shelves)), s) := by
  simp only [atDesk, Memory.read_eq]
  split_ifs <;> rfl

/-- The first bookings of a lane, if the store can be reached. -/
lemma atDesk_firstBookings (lane : Lane) (limit : Nat) (s : Service Memory) :
    s.atDesk (Desk.firstBookings lane limit) =
      (if s.store.refusal? = some Memory.offline then .error (.store Memory.offline)
        else .ok ((s.store.books.list lane.storeKey).take limit), s) :=
  atDesk_read_eq _ _ s

/-- The place of a pull request, if the store can be reached. -/
lemma atDesk_position (lane : Lane) (n : PullNumber) (s : Service Memory) :
    s.atDesk (Desk.position lane n) =
      (if s.store.refusal? = some Memory.offline then .error (.store Memory.offline)
        else .ok (s.store.books.place lane n), s) :=
  atDesk_read_eq _ _ s

/-- What has been posted after one more report. -/
lemma posted_post (h : s.clients.status = fun _ => none) (lane : Lane) (p : Pull)
    (report : StatusReport) :
    (s.post lane p report).2.posted =
      s.posted ++ [(p.statusTarget, report.withTarget p.pageUrl)] := by
  rw [post_of_willing h]
  exact delivered_append ..

namespace Posts

variable {P Q : List (StatusTarget × StatusReport) → Prop}

/-- Doing nothing is posting nothing. -/
lemma refl (h : P s.posted) : Posts P s s := ⟨rfl, rfl, rfl, rfl, .refl h⟩

/-- What is done in two parts. -/
lemma trans (h : Posts P s t) (h' : Posts P t u) : Posts P s u :=
  ⟨h'.store.trans h.store, h'.registry.trans h.registry, h'.clients.trans h.clients,
    h'.tasks.trans h.tasks, h.through.trans h'.through⟩

/-- A single report. -/
lemma post (hs : s.clients.status = fun _ => none) {lane : Lane} {p : Pull} {report : StatusReport}
    (h : P s.posted) (hnew : P (s.posted ++ [(p.statusTarget, report.withTarget p.pageUrl)])) :
    Posts P s (s.post lane p report).2 := by
  obtain ⟨reports, events, hwrites⟩ := s.post_writes lane p report
  refine ⟨?_, ?_, ?_, ?_, ?_⟩
  · rw [hwrites]
  · rw [hwrites]
  · rw [hwrites]
  · rw [hwrites]
  · rw [posted_post hs]
    exact (Through.refl h).snoc hnew

/-- The labels of bookings that follow each other. -/
lemma labelFrom {lane : Lane} {bs : List Booking} {place : Nat}
    (hs : s.clients.status = fun _ => none) (h : P s.posted)
    (hstep : ∀ i b p w, bs[i]? = some b → s.registry.get? ⟨lane.repo, b.number⟩ = some p → P w →
      P (w ++ [(p.statusTarget, (placeLabel (some (place + i))).withTarget p.pageUrl)])) :
    Posts P s (s.labelFrom lane place bs).2 := by
  induction bs generalizing s place with
  | nil => exact .refl h
  | cons b bs ih =>
    have hrest : ∀ i b' p w, bs[i]? = some b' →
        s.registry.get? ⟨lane.repo, b'.number⟩ = some p → P w →
        P (w ++ [(p.statusTarget, (placeLabel (some (place + 1 + i))).withTarget p.pageUrl)]) := by
      intro i b' p w hb' hp hw
      rw [show place + 1 + i = place + (i + 1) by omega]
      exact hstep (i + 1) b' p w hb' hp hw
    unfold Service.labelFrom
    cases hp : s.registry.get? ⟨lane.repo, b.number⟩ with
    | none => exact ih hs h hrest
    | some p =>
      have hpost : Posts P s (s.post lane p (placeLabel (some place))).2 :=
        .post hs h (hstep 0 b p _ rfl hp h)
      refine hpost.trans (ih (hpost.clients ▸ hs) hpost.through.last ?_)
      rw [hpost.registry]
      exact hrest

/-- The labels of the visible places of a lane, if the store can be reached. -/
lemma relabel {lane : Lane} (hs : s.clients.status = fun _ => none) (h : P s.posted)
    (hstep : ∀ i b p w, (s.store.books.list lane.storeKey)[i]? = some b →
      s.registry.get? ⟨lane.repo, b.number⟩ = some p → P w →
      P (w ++ [(p.statusTarget, (placeLabel (some i)).withTarget p.pageUrl)])) :
    Posts P s (s.relabel lane).2 := by
  unfold Service.relabel
  rw [atDesk_firstBookings]
  split_ifs
  · exact .refl h
  · refine labelFrom hs h fun i b p w hb hp hw => ?_
    rw [List.getElem?_take] at hb
    split_ifs at hb
    rw [Nat.zero_add]
    exact hstep i b p w hb hp hw

/-- The label of a pull request that is on record, at the place that it has by now. -/
lemma onAdded {lane : Lane} {n : PullNumber} (hs : s.clients.status = fun _ => none)
    (h : P s.posted)
    (hstep : ∀ p, s.registry.get? ⟨lane.repo, n⟩ = some p →
      P (s.posted ++ [(p.statusTarget,
        (placeLabel (s.store.books.place lane n)).withTarget p.pageUrl)])) :
    Posts P s (s.onAdded lane n) := by
  unfold Service.onAdded
  cases hp : s.registry.get? ⟨lane.repo, n⟩ with
  | none => exact .refl h
  | some p =>
    simp only [atDesk_position]
    split_ifs
    · exact .refl h
    · exact .post hs h (hstep p hp)

/-- The label of the place that a pull request has. -/
lemma labelPlace {p : Pull} (hs : s.clients.status = fun _ => none) (h : P s.posted)
    (hstep : P (s.posted ++ [(p.statusTarget,
      (placeLabel (s.store.books.place p.lane p.number)).withTarget p.pageUrl)])) :
    Posts P s (s.labelPlace p).2 := by
  unfold Service.labelPlace
  rw [atDesk_position]
  split_ifs
  · exact .refl h
  · exact .post hs h hstep

end Posts

/-- If the store can be reached, a removal is followed up by the labels of the lane and then, if the
pull request stays open, by its own. -/
lemma onRemoved_eq {lane : Lane} {n : PullNumber} {closed : Bool}
    (h : s.store.refusal? ≠ some Memory.offline) :
    s.onRemoved lane n closed =
      if closed then (s.relabel lane).2
      else match s.registry.get? ⟨lane.repo, n⟩ with
        | none => (s.relabel lane).2
        | some p => ((s.relabel lane).2.post lane p (placeLabel none)).2 := by
  have hread : s.atDesk (Desk.firstBookings lane (lastShownPlace + 1)) =
      (.ok ((s.store.books.list lane.storeKey).take (lastShownPlace + 1)), s) := by
    rw [atDesk_firstBookings, if_neg h]
  obtain ⟨reports, events, hlabels⟩ :=
    s.labelFrom_writes lane 0 ((s.store.books.list lane.storeKey).take (lastShownPlace + 1))
  simp only [Service.onRemoved, Service.relabel, hread, hlabels]
  rfl

/-- If the head of a lane is not on record, what follows a removal shows the turn to nobody. -/
lemma Posts.onRemoved_fading {lane : Lane} {n : PullNumber} (hs : s.clients.status = fun _ => none)
    (hreach : s.store.refusal? ≠ some Memory.offline)
    (hhead : ∀ b, (s.store.books.list lane.storeKey).head? = some b →
      s.registry.get? ⟨lane.repo, b.number⟩ = none) (closed : Bool) :
    Posts (fun w => ∀ url, ShowsTurn url w → ShowsTurn url s.posted) s
      (s.onRemoved lane n closed) := by
  -- A label of any other place shows the turn nowhere that it was not shown before.
  have hother : ∀ (w : List (StatusTarget × StatusReport)) (p : Pull) (place : Option Nat),
      place ≠ some 0 → (∀ url, ShowsTurn url w → ShowsTurn url s.posted) →
      ∀ url, ShowsTurn url (w ++ [(p.statusTarget, (placeLabel place).withTarget p.pageUrl)]) →
        ShowsTurn url s.posted := by
    intro w p place hplace hw url hurl
    rw [showsTurn_append] at hurl
    split_ifs at hurl
    · exact absurd ((placeLabel_reads_turn _).1 hurl) hplace
    · exact hw url hurl
  have hlabels : Posts (fun w => ∀ url, ShowsTurn url w → ShowsTurn url s.posted) s
      (s.relabel lane).2 := by
    refine relabel hs (fun _ h => h) fun i b p w hb hp hw => hother w p (some i) ?_ hw
    intro hi
    obtain rfl : i = 0 := Option.some.inj hi
    rw [hhead b (List.head?_eq_getElem?.trans hb)] at hp
    cases hp
  rw [onRemoved_eq hreach]
  split_ifs
  · exact hlabels
  · cases s.registry.get? ⟨lane.repo, n⟩ with
    | none => exact hlabels
    | some p =>
      exact hlabels.trans (.post (hlabels.clients ▸ hs) hlabels.through.last
        (hother _ p none nofun hlabels.through.last))

/-- If the head of a lane is on record, what follows a removal shows it the turn first. -/
lemma onRemoved_first {lane : Lane} {n : PullNumber} {b : Booking} {bs : List Booking} {p : Pull}
    (hs : s.clients.status = fun _ => none) (hreach : s.store.refusal? ≠ some Memory.offline)
    (hlist : s.store.books.list lane.storeKey = b :: bs)
    (hp : s.registry.get? ⟨lane.repo, b.number⟩ = some p) (closed : Bool) :
    s.posted ++ [(p.statusTarget, (placeLabel (some 0)).withTarget p.pageUrl)] <+:
      (s.onRemoved lane n closed).posted := by
  have hread : s.atDesk (Desk.firstBookings lane (lastShownPlace + 1)) =
      (.ok (b :: bs.take lastShownPlace), s) := by
    rw [atDesk_firstBookings, if_neg hreach, hlist, List.take_succ_cons]
  have hfirst : Posts (fun _ => True) s (s.post lane p (placeLabel (some 0))).2 :=
    .post hs trivial trivial
  have hrest : Posts (fun _ => True) (s.post lane p (placeLabel (some 0))).2 (s.relabel lane).2 := by
    have hlabels : (s.relabel lane).2 = ((s.post lane p (placeLabel (some 0))).2.labelFrom lane 1
        (bs.take lastShownPlace)).2 := by
      simp only [Service.relabel, hread, labelFrom, hp]
      rfl
    rw [hlabels]
    exact .labelFrom (hfirst.clients ▸ hs) trivial fun _ _ _ _ _ _ _ => trivial
  have hgrows := hrest.through.grows
  rw [posted_post hs] at hgrows
  refine hgrows.trans ?_
  rw [onRemoved_eq hreach]
  split_ifs
  · exact List.prefix_rfl
  · cases s.registry.get? ⟨lane.repo, n⟩ with
    | none => exact List.prefix_rfl
    | some q =>
      dsimp only
      rw [posted_post (hrest.clients ▸ hfirst.clients ▸ hs)]
      exact List.prefix_append _ _

/-! ## All tasks -/

/-- Tasks that have nothing to do with labels leave all alone that labels depend on. -/
lemma settle_alike (h : ∀ task ∈ s.tasks, task.labelChange? = none) :
    Alike { s with tasks := [] } s.settle := by
  unfold Service.settle
  generalize htasks : s.tasks = tasks at h ⊢
  induction tasks generalizing s with
  | nil => exact ⟨rfl, rfl, rfl, htasks, rfl⟩
  | cons task rest ih =>
    obtain ⟨htask, hrest⟩ := List.forall_mem_cons.1 h
    have hnext : s.runNext = { s with tasks := rest }.handle task.handler task.event := by
      rw [runNext, htasks]
    have halike : Alike { s with tasks := rest } s.runNext := hnext ▸ handle_alike htask _
    have hleft := ih halike.tasks hrest
    exact ⟨hleft.store.trans halike.store, hleft.registry.trans halike.registry,
      hleft.clients.trans halike.clients, hleft.tasks, hleft.reports.trans halike.reports⟩

/-- What the label handlers do about a change of a lane. -/
def setLabels : LaneEvent → Service Memory → Service Memory
  | .added l b _, s => s.onAdded l b.number
  | .removed l b removal, s => s.onRemoved l b.number removal.closed

/-- Of all that depends on no other tasks, setting labels only writes to the ledger. -/
lemma setLabels_writes (e : LaneEvent) (s : Service Memory) :
    ∃ reports failures, s.setLabels e = { s with ledger := { s.ledger with
      reports, events := s.ledger.events ++ List.map .failed failures } } := by
  cases e with
  | added l b place => exact s.onAdded_writes l b.number
  | removed l b removal => exact s.onRemoved_writes l b.number removal.closed

/-- What comes of a change of a lane when no task is left: the reports of its label handler. -/
structure Labelled (e : LaneEvent) (s t : Service Memory) : Prop where
  store : t.store = s.store
  registry : t.registry = s.registry
  clients : t.clients = s.clients
  tasks : t.tasks = []
  posted : ∃ rest, t.posted = (({ s with tasks := rest } : Service Memory).setLabels e).posted

/-- When all tasks that follow a change have run, the reports are those of its label handler, which
ran first. -/
lemma labelled_settle {e : LaneEvent}
    (htasks : s.tasks = (handlers (.lane e)).map fun h => ⟨h, .lane e⟩) :
    Labelled e s s.settle := by
  obtain ⟨task, rest, hsplit, hhandle, hquiet⟩ : ∃ task rest, s.tasks = task :: rest ∧
      (∀ t : Service Memory, t.handle task.handler task.event = t.setLabels e) ∧
      ∀ task ∈ rest, task.labelChange? = none := by
    cases e with
    | added l b place =>
      rw [handlers_added] at htasks
      exact ⟨_, _, htasks, fun t => rfl, by simp [Task.labelChange?]⟩
    | removed l b removal =>
      rw [handlers_removed] at htasks
      exact ⟨_, _, htasks, fun t => rfl, by simp [Task.labelChange?]⟩
  obtain ⟨reports, failures, hwrites⟩ := setLabels_writes e { s with tasks := rest }
  have hleft : (({ s with tasks := rest } : Service Memory).setLabels e).tasks = rest := by
    rw [hwrites]
  have hsettle : s.settle = (({ s with tasks := rest } : Service Memory).setLabels e).settle := by
    rw [Service.settle, Service.settle, hleft, hsplit, List.length_cons, runTasks, runNext, hsplit,
      ← hhandle]
  have halike := settle_alike (hleft.symm ▸ hquiet)
  rw [← hsettle] at halike
  refine ⟨halike.store.trans ?_, halike.registry.trans ?_, halike.clients.trans ?_, halike.tasks,
    rest, congrArg delivered halike.reports⟩
  all_goals rw [hwrites]

end Service

end MergeTurn
