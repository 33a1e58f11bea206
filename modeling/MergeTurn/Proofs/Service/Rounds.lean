import MergeTurn.Proofs.Service.HeadNotices
import MergeTurn.Proofs.Service.Schedules
import MergeTurn.Proofs.Service.Turns

set_option autoImplicit false

/-!
# No two turns in a lane

The service is called, and all tasks run before it is called again. Then at every moment, and not
only between two calls, at most one pull request of each lane shows that it is its turn, unless a
removal by hand overlaps: the removed pull request stays open, and it is told last that it is blocked,
after the next one has been told that it is its turn.

## Main definitions

* `MergeTurn.Service.Round`, `MergeTurn.Service.session` — calls, each with all its tasks, and what
  happens to the store between them.
* `MergeTurn.Service.Overlaps` — a removal by hand shows two turns for a while.
* `MergeTurn.Service.Orderly` — between two rounds only heads show their turn.

## Main results

* `MergeTurn.Service.Orderly.round` — a round keeps the service orderly, and shows two turns exactly
  if it overlaps.
* `MergeTurn.Service.soleTurn_iff` — when no lane shows two turns at any moment.
-/

namespace MergeTurn.Service

/-! ## Rounds -/

/-- A call with all its tasks, or something that happens to the store meanwhile. -/
inductive Round where
  | call (c : Call)
  | outside (f : Memory → Memory)

/-- The call of a round, if it has one. -/
def Round.call? : Round → Option Call
  | .call c => some c
  | .outside _ => none

/-- The service after a round. -/
def round : Round → Service Memory → Service Memory
  | .call c, s => (s.perform c).2.settle
  | .outside f, s => { s with store := f s.store }

/-- The service after rounds. -/
def session (rounds : List Round) (s : Service Memory) : Service Memory :=
  rounds.foldl (fun s r => s.round r) s

/-- A removal by hand shows two turns for a while: it takes the first of several bookings out of a
lane, whose pull request shows that it is its turn, and the next one is on record. -/
inductive Overlaps (s : Service Memory) : Round → Prop
  | unbook {l : Lane} {n : PullNumber} {b c : Booking} {rest : List Booking} {p q : Pull}
    (hstore : s.store.refusal? = none)
    (hlane : (Desk.bookings l s.store).answer = .ok (b :: c :: rest)) (hn : b.number = n)
    (hp : s.registry.get? ⟨l.repo, n⟩ = some p) (hshows : ShowsTurn p.statusUrl s.posted)
    (hq : s.registry.get? ⟨l.repo, c.number⟩ = some q) : Overlaps s (.call (.unbook l n))

variable {calls : List Call} {s t u : Service Memory} {l : Lane} {n : PullNumber} {b : Booking}
  {p q : Pull}

/-! ## How calls can end -/

/-- How a booking can end: without effect, or with all of it. -/
lemma book_cases (l : Lane) (b : Booking) (s : Service Memory) :
    (∃ a m, s.book l b = (a, { s with store := m }) ∧ (∀ place, a ≠ .ok (.added place)) ∧
      m.books = s.store.books) ∨
    ∃ place m, s.book l b = (.ok (.added place),
        ({ s with store := m } : Service Memory).publish (.lane (.added l b place))) ∧
      s.store.books.member l.repo.storeKey b.number = false ∧ m.refusal? = none ∧
      m.books = (s.store.books.addMember l.repo.storeKey b.number).append l.storeKey b := by
  have hends := Desk.book_memory l b s.store
  simp only [Service.book, atDesk]
  generalize Desk.book l b s.store = turn at hends ⊢
  cases hends with
  | kept ha h => exact .inl ⟨_, _, rfl, ha, h⟩
  | added hm ht h => exact .inr ⟨_, _, rfl, hm, ht, h⟩

/-- How a removal can end: without effect, or with all of it. -/
lemma unbook_cases (l : Lane) (n : PullNumber) (closed : Bool) (s : Service Memory) :
    (∃ a m, s.unbook l n closed = (a, { s with store := m }) ∧ (∀ b r, a ≠ .ok (.removed b r)) ∧
      m.books = s.store.books) ∨
    ∃ b removal m, s.unbook l n closed = (.ok (.removed b removal),
        ({ s with store := m } : Service Memory).publish (.lane (.removed l b removal))) ∧
      b.number = n ∧ removal.closed = closed ∧ s.store.books.Lists l.storeKey n ∧
      m.refusal? = none ∧
      m.books = (s.store.books.removeFirst l.storeKey n).removeMember l.repo.storeKey n := by
  have hends := Desk.unbook_memory l n closed s.store
  simp only [Service.unbook, atDesk]
  generalize Desk.unbook l n closed s.store = turn at hends ⊢
  cases hends with
  | kept ha h => exact .inl ⟨_, _, rfl, ha, h⟩
  | removed hn hr hl ht h => exact .inr ⟨_, _, _, rfl, hn, hr, hl, ht, h⟩

/-! ## Between rounds -/

/-- No task is left, reports are not refused, and whoever shows the turn is on record and the head
of its lane. -/
structure Orderly (calls : List Call) (s : Service Memory) : Prop where
  willing : s.clients.status = fun _ => none
  idle : s.tasks = []
  inOrder : InOrder calls s.store.books s.registry
  heads : Heads calls s.store.books s.registry none s.posted

/-- The service comes to an orderly state, and at no moment on the way do two pull requests of a lane
show their turn. -/
structure Steady (calls : List Call) (s t : Service Memory) : Prop where
  orderly : Orderly calls t
  through : Through (SoleTurn calls) s.posted t.posted

/-- What was posted before is all that matters of where it started. -/
lemma Steady.of_posted (h : Steady calls u t) (hposted : u.posted = s.posted) : Steady calls s t :=
  ⟨h.orderly, hposted ▸ h.through⟩

/-- No task is left to run. -/
lemma Steady.settled (h : Steady calls s t) : Steady calls s t.settle := by
  rw [settle_of_idle h.orderly.idle]
  exact h

/-- When the tasks have run that follow a change, the service is orderly if heads only show their
turn. -/
lemma Labelled.orderly {e : LaneEvent} (h : Labelled e s t) (hs : s.clients.status = fun _ => none)
    (horder : InOrder calls s.store.books s.registry)
    (hheads : Heads calls s.store.books s.registry none t.posted) : Orderly calls t := by
  refine ⟨h.clients ▸ hs, h.tasks, ?_, ?_⟩
  · rw [h.store, h.registry]
    exact horder
  · rw [h.store, h.registry]
    exact hheads

/-- So they do if they did when the change had been made. -/
lemma Steady.settle {e : LaneEvent} (hc : Coherent calls) (hs : t.clients.status = fun _ => none)
    (hfrom : Through (SoleTurn calls) s.posted t.posted)
    (horder : InOrder calls t.store.books t.registry)
    (hheads : Heads calls t.store.books t.registry none t.posted)
    (htasks : t.tasks = (handlers (.lane e)).map fun h => ⟨h, .lane e⟩)
    (hreach : t.store.refusal? = none)
    (hhome : e.lane = (charter calls).home e.key) (hl : e.lane.repo.Colonless) :
    Steady calls s t.settle := by
  have hsettled := labelled_settle htasks
  obtain ⟨rest, hposted⟩ := hsettled.posted
  have hlabels := Posts.setLabels_heads (s := { t with tasks := rest }) hc hs horder hheads
    (by simp [hreach]) hhome hl
  refine ⟨hsettled.orderly hs horder ?_, ?_⟩
  · rw [hposted]
    exact hlabels.through.last
  · rw [hposted]
    exact hfrom.trans (hlabels.through.mono fun _ => Heads.sole)

namespace Orderly

variable (h : Orderly calls s)
include h

/-- It is steady to do nothing. -/
lemma steady : Steady calls s s := ⟨h, .refl h.heads.sole⟩

/-- A store that holds the same may take the place of the other. -/
lemma withStore {m : Memory} (hm : m.books = s.store.books) :
    Orderly calls { s with store := m } :=
  ⟨h.willing, h.idle, hm.symm ▸ h.inOrder, hm.symm ▸ h.heads⟩

/-- One of the pull requests is recorded. -/
lemma record (hp : p ∈ pulls calls) : Orderly calls (s.withRegistry (·.record p)) :=
  ⟨h.willing, h.idle, h.inOrder.record hp, h.heads.record p⟩

/-- Reports are posted that show the turn to heads only. -/
lemma of_posts (hposts : Posts (Heads calls s.store.books s.registry none) s t) :
    Steady calls s t := by
  refine ⟨⟨hposts.clients ▸ h.willing, hposts.tasks.trans h.idle, ?_, ?_⟩,
    hposts.through.mono fun _ => Heads.sole⟩
  · rw [hposts.store, hposts.registry]
    exact h.inOrder
  · rw [hposts.store, hposts.registry]
    exact hposts.through.last

/-- A pull request on record is told its place. -/
lemma labelPlace (hc : Coherent calls) (hp : p ∈ pulls calls)
    (hr : (s.registry.get? p.key).isSome) : Steady calls s (s.labelPlace p).2 := by
  refine h.of_posts (.labelPlace h.willing h.heads ?_)
  refine h.heads.post hc hp fun hreads => ?_
  rw [placeLabel_reads_turn] at hreads
  exact ⟨hreads, hr⟩

/-- A booking is followed up. -/
lemma settle_added (hc : Coherent calls) (hl : l.repo.Colonless)
    (hhome : l = (charter calls).home ⟨l.repo, b.number⟩) {m : Memory} {place : Nat}
    (hm : s.store.books.member l.repo.storeKey b.number = false) (hreach : m.refusal? = none)
    (hbooks : m.books =
      (s.store.books.addMember l.repo.storeKey b.number).append l.storeKey b) :
    Steady calls s
      (({ s with store := m } : Service Memory).publish (.lane (.added l b place))).settle := by
  have horder : InOrder calls m.books s.registry := hbooks.symm ▸ h.inOrder.book hl hhome hm
  have hheads : Heads calls m.books s.registry none s.posted :=
    hbooks.symm ▸ h.heads.book hc h.inOrder.inStep hl hm
  exact .settle (e := .added l b place) hc h.willing (.refl h.heads.sole) horder hheads
    (by simp [publish, h.idle]) hreach hhome hl

/-- A booking by hand. -/
lemma book (hc : Coherent calls) (hl : l.repo.Colonless)
    (hhome : l = (charter calls).home ⟨l.repo, b.number⟩) :
    Steady calls s (s.book l b).2.settle := by
  rcases book_cases l b s with ⟨a, m, hbook, -, hm⟩ | ⟨place, m, hbook, hm, hreach, hbooks⟩
  · rw [hbook]
    exact (h.withStore hm).steady.settled.of_posted rfl
  · rw [hbook]
    exact h.settle_added hc hl hhome hm hreach hbooks

/-- A pull request is opened. -/
lemma opened (hc : Coherent calls) (hp : p ∈ pulls calls) (clock : Time.Timestamp) :
    Steady calls s (s.opened p clock).2.settle := by
  obtain ⟨hhome, hl⟩ := hc.home hp
  have h' := h.record hp
  unfold Service.opened
  rcases book_cases p.lane ⟨p.number, p.author, clock⟩ (s.withRegistry (·.record p)) with
    ⟨a, m, hbook, hnot, hm⟩ | ⟨place, m, hbook, hm, hreach, hbooks⟩
  · rw [hbook]
    have hkept := h'.withStore hm
    rcases a with e | (place | _)
    · exact hkept.steady.settled.of_posted rfl
    · exact absurd rfl (hnot place)
    · -- It is a duplicate, so its label is set at once.
      have hsettled : Steady calls s
          (Service.labelPlace p { s.withRegistry (·.record p) with store := m }).2.settle :=
        (hkept.labelPlace hc hp (s.registry.isSome_record p)).settled.of_posted rfl
      dsimp only
      rcases hop : Service.labelPlace p { s.withRegistry (·.record p) with store := m } with
        ⟨_ | _, u⟩
      all_goals
        rw [hop] at hsettled
        exact hsettled
  · rw [hbook]
    exact (h'.settle_added (b := ⟨p.number, p.author, clock⟩) hc hl hhome hm hreach
      hbooks).of_posted rfl

/-- A pull request has new commits. -/
lemma updated (hc : Coherent calls) (hp : p ∈ pulls calls) :
    Steady calls s (s.updated p).2.settle :=
  ((h.record hp).labelPlace hc hp (s.registry.isSome_record p)).settled.of_posted rfl

end Orderly

/-- The service after a pull request got its last label and was forgotten. -/
def dismiss (p : Pull) (closing : Closing) (s : Service Memory) : Service Memory :=
  (s.post p.lane p closing.label).2.withRegistry (·.forget p.key)

section Dismiss

variable (p : Pull) (closing : Closing) (s : Service Memory)

lemma dismiss_clients : (s.dismiss p closing).clients = s.clients := by
  obtain ⟨reports, events, h⟩ := s.post_writes p.lane p closing.label
  exact (congrArg (fun t : Service Memory => t.clients) h :)

lemma dismiss_store : (s.dismiss p closing).store = s.store := by
  obtain ⟨reports, events, h⟩ := s.post_writes p.lane p closing.label
  exact (congrArg (fun t : Service Memory => t.store) h :)

lemma dismiss_tasks : (s.dismiss p closing).tasks = s.tasks := by
  obtain ⟨reports, events, h⟩ := s.post_writes p.lane p closing.label
  exact (congrArg (fun t : Service Memory => t.tasks) h :)

lemma dismiss_registry : (s.dismiss p closing).registry = s.registry.forget p.key := by
  obtain ⟨reports, events, h⟩ := s.post_writes p.lane p closing.label
  exact (congrArg (fun t : Service Memory => t.registry.forget p.key) h :)

end Dismiss

/-- Whoever was left out of account may be dismissed: then only heads show their turn, and at no
moment before did two pull requests of a lane. -/
lemma heads_dismiss (hc : Paged calls) (hp : p ∈ pulls calls)
    (hs : s.clients.status = fun _ => none)
    (h : Heads calls s.store.books s.registry (some p.key) s.posted)
    (hsole : SoleTurn calls s.posted) (closing : Closing) :
    Heads calls s.store.books (s.registry.forget p.key) none (s.dismiss p closing).posted ∧
      Through (SoleTurn calls) s.posted (s.dismiss p closing).posted := by
  have hposted : (s.dismiss p closing).posted =
      s.posted ++ [(p.statusTarget, closing.label.withTarget p.pageUrl)] :=
    posted_post hs p.lane p closing.label
  have hheads := h.forget.clear hc hp (closing.label_not_turn p.pageUrl)
  rw [hposted]
  exact ⟨hheads, (Through.refl hsole).snoc hheads.sole⟩

/-- A pull request is closed. -/
lemma Orderly.closed (hc : Paged calls) (h : Orderly calls s) (hp : p ∈ pulls calls)
    (closing : Closing) : Steady calls s (s.closed p closing).2.settle := by
  obtain ⟨hhome, hl⟩ := hc.home hp
  unfold Service.closed
  rcases unbook_cases p.lane p.number true s with
    ⟨a, m, hunbook, -, hm⟩ | ⟨b, removal, m, hunbook, hb, -, hlists, hreach, hbooks⟩
  · rw [hunbook]
    have hkept := h.withStore hm
    cases a with
    | error e => exact hkept.steady.settled.of_posted rfl
    | ok o =>
      obtain ⟨hheads, hthrough⟩ :=
        heads_dismiss hc hp hkept.willing hkept.heads.excuse hkept.heads.sole closing
      have horderly : Orderly calls (dismiss p closing { s with store := m }) := by
        constructor
        · rw [dismiss_clients]
          exact h.willing
        · rw [dismiss_tasks]
          exact h.idle
        · rw [dismiss_store, dismiss_registry]
          exact hkept.inOrder.forget p.key
        · rw [dismiss_store, dismiss_registry]
          exact hheads
      exact (Steady.mk horderly hthrough).settled.of_posted rfl
  · rw [hunbook]
    have horder : InOrder calls m.books s.registry := hbooks.symm ▸ h.inOrder.unbook hl hlists
    have hheads : Heads calls m.books s.registry (some p.key) s.posted :=
      hbooks.symm ▸ h.heads.unbook hc.toCoherent hl
    have hkey : (LaneEvent.removed p.lane b removal).key = p.key := congrArg (PullKey.mk p.repo) hb
    obtain ⟨hheads', hthrough⟩ := heads_dismiss
      (s := ({ s with store := m } : Service Memory).publish (.lane (.removed p.lane b removal)))
      hc hp h.willing hheads h.heads.sole closing
    refine .settle (e := .removed p.lane b removal)
      (t := dismiss p closing (({ s with store := m } : Service Memory).publish
        (.lane (.removed p.lane b removal)))) hc.toCoherent ?_ hthrough ?_ ?_ ?_ ?_ (hkey ▸ hhome) hl
    · rw [dismiss_clients]
      exact h.willing
    · rw [dismiss_store, dismiss_registry]
      exact horder.forget p.key
    · rw [dismiss_store, dismiss_registry]
      exact hheads'
    · rw [dismiss_tasks]
      simp [publish, h.idle]
    · rw [dismiss_store]
      exact hreach

/-! ## Removals by hand -/

/-- What a round does: it keeps the service orderly, and two pull requests of a lane show their turn
at some moment exactly if it overlaps. -/
structure Rounded (calls : List Call) (r : Round) (s : Service Memory) : Prop where
  orderly : Orderly calls (s.round r)
  grows : s.posted <+: (s.round r).posted
  sole_iff : (∀ w, s.posted <+: w → w <+: (s.round r).posted → SoleTurn calls w) ↔ ¬ Overlaps s r

/-- A round that is steady does not overlap. -/
lemma Steady.rounded {r : Round} (h : Steady calls s (s.round r)) (hno : ¬ Overlaps s r) :
    Rounded calls r s :=
  ⟨h.orderly, h.through.grows, iff_of_true (fun _ => h.through.holds) hno⟩

/-- A removal that overlaps is one. -/
lemma Overlaps.unbook_answer (h : Overlaps s (.call (.unbook l n))) :
    ∃ b removal, (s.unbook l n false).1 = .ok (.removed b removal) := by
  cases h with
  | unbook hstore hlane hn hp hshows hq =>
    have hanswer : (s.unbook l n false).1 = (Desk.unbook l n false s.store).answer := rfl
    have hreach : s.store.refusal? ≠ some Memory.offline := by simp [hstore]
    rw [Desk.bookings_answer, if_neg hreach] at hlane
    rw [hanswer, Desk.unbook_answer, if_neg hreach, Except.ok.inj hlane, hstore]
    simp [hn]

/-- The removal of a head that shows the turn overlaps exactly if the next one is on record. -/
lemma overlaps_unbook_iff {a : Booking} {rest : List Booking} (hstore : s.store.refusal? = none)
    (hlist : s.store.books.list l.storeKey = a :: rest) (ha : a.number = n)
    (hp : s.registry.get? ⟨l.repo, n⟩ = some p) (hshows : ShowsTurn p.statusUrl s.posted) :
    ¬ Overlaps s (.call (.unbook l n)) ↔
      ∀ c, rest.head? = some c → s.registry.get? ⟨l.repo, c.number⟩ = none := by
  have hlane : (Desk.bookings l s.store).answer = .ok (a :: rest) := by
    rw [Desk.bookings_answer, if_neg (by simp [hstore]), hlist]
  constructor
  · intro hno c hc
    obtain ⟨bs, rfl⟩ := List.head?_eq_some_iff.1 hc
    by_contra hq
    obtain ⟨q, hq⟩ := Option.ne_none_iff_exists'.1 hq
    exact hno (.unbook hstore hlane ha hp hshows hq)
  · intro hhead hover
    cases hover with
    | unbook _ hlane' _ _ _ hq =>
      cases hlane.symm.trans hlane'
      cases (hhead _ rfl).symm.trans hq

/-- Whoever was the head of a lane and shows the turn is told last that it is not its turn. Meanwhile
two pull requests of the lane show it if the new head is on record, and not otherwise. -/
lemma reblocked (hc : Paged calls) (hs : t.clients.status = fun _ => none)
    (horder : InOrder calls t.store.books t.registry)
    (hheads : Heads calls t.store.books t.registry (some ⟨l.repo, n⟩) t.posted)
    (hsole : SoleTurn calls t.posted) (hl : l.repo.Colonless)
    (hhome : l = (charter calls).home ⟨l.repo, n⟩) (hreach : t.store.refusal? = none)
    (hgone : ¬ t.store.books.Lists l.storeKey n) (hp : t.registry.get? ⟨l.repo, n⟩ = some p)
    (hshows : ShowsTurn p.statusUrl t.posted) {removal : Removal} (hn : b.number = n)
    (hopen : removal.closed = false)
    (htasks : t.tasks = (handlers (.lane (.removed l b removal))).map fun h =>
      ⟨h, .lane (.removed l b removal)⟩) :
    Orderly calls t.settle ∧ t.posted <+: t.settle.posted ∧
      ((∀ w, t.posted <+: w → w <+: t.settle.posted → SoleTurn calls w) ↔
        ∀ c, (t.store.books.list l.storeKey).head? = some c →
          t.registry.get? ⟨l.repo, c.number⟩ = none) := by
  have hsettled := labelled_settle htasks
  obtain ⟨rest, hposted⟩ := hsettled.posted
  have hreach' : t.store.refusal? ≠ some Memory.offline := by simp [hreach]
  have hlabels : (({ t with tasks := rest } : Service Memory).setLabels (.removed l b removal)) =
      ({ t with tasks := rest } : Service Memory).onRemoved l n false := by
    rw [setLabels, hn, hopen]
  rw [hlabels] at hposted
  refine ⟨hsettled.orderly hs horder ?_, ?_, ?_⟩
  · rw [hposted]
    exact Heads.onRemoved (s := { t with tasks := rest }) hc hs horder hl hheads hreach' hp
  · rw [hposted]
    exact (Posts.onRemoved_heads (s := { t with tasks := rest }) hc.toCoherent hs horder hheads
      hreach' hhome hl false).through.grows
  · rw [hposted]
    constructor
    · intro hall c hc'
      by_contra hq
      obtain ⟨q, hq⟩ := Option.ne_none_iff_exists'.1 hq
      obtain ⟨bs, hlist⟩ := List.head?_eq_some_iff.1 hc'
      refine horder.not_sole hc.toCoherent hl hhome hgone hp hshows hlist hq ?_
      exact hall _ (List.prefix_append _ _)
        (onRemoved_first (s := { t with tasks := rest }) (n := n) hs hreach' hlist hq false)
    · intro hhead
      have hfades := Posts.onRemoved_fading (s := { t with tasks := rest }) (n := n) hs hreach'
        hhead false
      exact fun w => (hfades.through.mono fun w hw =>
        hsole.of_fewer fun p _ hpw => hw _ hpw).holds

/-- If the pull request that is removed does not show the turn, all who do are heads still. -/
lemma Orderly.heads_unbook (hc : Paged calls) (h : Orderly calls s) (hl : l.repo.Colonless)
    (hhidden : ∀ p, s.registry.get? ⟨l.repo, n⟩ = some p → ¬ ShowsTurn p.statusUrl s.posted) :
    Heads calls ((s.store.books.removeFirst l.storeKey n).removeMember l.repo.storeKey n) s.registry
      none s.posted := by
  refine (h.heads.unbook hc.toCoherent hl).of_not_shown fun p hp hkey hpw => ?_
  obtain ⟨q, hq⟩ := Option.isSome_iff_exists.1 ((h.heads p hp hpw).resolve_left nofun).2
  have hurl := hc.one_url p hp q (h.inOrder.known _ q hq) (h.inOrder.keyed _ q hq).symm
  exact hhidden q (hkey ▸ hq) (hurl ▸ hpw)

/-- A pull request is taken out of its lane by hand. -/
lemma Orderly.unbook (hc : Paged calls) (h : Orderly calls s) (hl : l.repo.Colonless)
    (hhome : l = (charter calls).home ⟨l.repo, n⟩) : Rounded calls (.call (.unbook l n)) s := by
  have hround : s.round (.call (.unbook l n)) = (s.unbook l n false).2.settle := rfl
  rcases unbook_cases l n false s with
    ⟨a, m, hunbook, hnot, hm⟩ | ⟨b, removal, m, hunbook, hn, hopen, hlists, hreach, hbooks⟩
  · refine Steady.rounded ?_ fun hover => ?_
    · rw [hround, hunbook]
      exact (h.withStore hm).steady.settled.of_posted rfl
    · obtain ⟨b, removal, hremoved⟩ := hover.unbook_answer
      rw [hunbook] at hremoved
      exact hnot b removal hremoved
  · have hstore : s.store.refusal? = none :=
      Desk.refusal?_of_removed (congrArg Prod.fst hunbook :)
    have horder : InOrder calls m.books s.registry := hbooks.symm ▸ h.inOrder.unbook hl hlists
    have hgone : ¬ m.books.Lists l.storeKey n := by
      rw [hbooks, h.inOrder.inStep.lists_unbook hl hl]
      simp
    rw [hunbook] at hround
    by_cases hshown : ∃ p, s.registry.get? ⟨l.repo, n⟩ = some p ∧ ShowsTurn p.statusUrl s.posted
    · obtain ⟨p, hp, hshows⟩ := hshown
      have hheads : Heads calls m.books s.registry (some ⟨l.repo, n⟩) s.posted :=
        hbooks.symm ▸ h.heads.unbook hc.toCoherent hl
      obtain ⟨hpmem, -, hplane, hpnumber⟩ := h.inOrder.of_record hc.toCoherent hhome hp
      obtain ⟨hplace, -⟩ := (h.heads p hpmem hshows).resolve_left nofun
      rw [hplane, hpnumber] at hplace
      obtain ⟨a, rest, hlist, ha⟩ := Books.exists_cons_of_place hplace
      have hrest : m.books.list l.storeKey = rest := by
        rw [hbooks, Books.list_unbook_head hl hlist ha]
      obtain ⟨horderly, hgrows, hsole⟩ := reblocked
        (t := ({ s with store := m } : Service Memory).publish (.lane (.removed l b removal)))
        hc h.willing horder hheads h.heads.sole hl hhome hreach hgone hp hshows hn hopen
        (by simp [publish, h.idle])
      constructor
      · rw [hround]
        exact horderly
      · rw [hround]
        exact hgrows
      · rw [hround, overlaps_unbook_iff hstore hlist ha hp hshows, ← hrest]
        exact hsole
    · refine Steady.rounded ?_ fun hover => hshown ?_
      · have hheads : Heads calls m.books s.registry none s.posted :=
          hbooks.symm ▸ h.heads_unbook hc hl fun p hp hshows => hshown ⟨p, hp, hshows⟩
        have hkey : (LaneEvent.removed l b removal).key = ⟨l.repo, n⟩ :=
          congrArg (PullKey.mk l.repo) hn
        rw [hround]
        exact .settle (e := .removed l b removal) hc.toCoherent h.willing (.refl h.heads.sole)
          horder hheads (by simp [publish, h.idle]) hreach (hkey ▸ hhome) hl
      · cases hover with
        | unbook _ _ _ hp hshows _ => exact ⟨_, hp, hshows⟩

/-! ## Sessions -/

/-- What can happen in a round that is about the calls: from outside a store may come and go and its
file be changed, but what it holds in memory stays. -/
def Round.Within (calls : List Call) : Round → Prop
  | .call c => c ∈ calls
  | .outside f => ∀ m : Memory, (f m).shelves = m.shelves

/-- A round keeps the service orderly, and shows two turns in a lane exactly if it overlaps. -/
theorem Orderly.round (hc : Paged calls) (h : Orderly calls s) {r : Round} (hr : r.Within calls) :
    Rounded calls r s := by
  cases r with
  | outside f =>
    refine Steady.rounded ?_ nofun
    exact (h.withStore (congrArg Shelves.books (hr s.store))).steady.of_posted rfl
  | call c =>
    have hfits := hc.fits hr
    have hpull : ∀ p, c.pull? = some p → p ∈ pulls calls := fun p hp =>
      List.mem_filterMap.2 ⟨c, hr, hp⟩
    cases c with
    | opened p clock => exact (h.opened hc.toCoherent (hpull p rfl) clock).rounded nofun
    | updated p => exact (h.updated hc.toCoherent (hpull p rfl)).rounded nofun
    | closed p closing => exact (h.closed hc (hpull p rfl) closing).rounded nofun
    | book l b => exact (h.book hc.toCoherent hfits.colonless hfits.lane).rounded nofun
    | unbook l n => exact h.unbook hc hfits.colonless hfits.lane

/-- Rounds keep the service orderly, and show two turns in a lane exactly if one of them overlaps.

**Proof sketch.** Induction on the rounds. All that is posted at some moment is a beginning of what
the first round has posted, or goes on from there. -/
lemma Orderly.session (hc : Paged calls) {rounds : List Round}
    (hrounds : ∀ r ∈ rounds, r.Within calls) (h : Orderly calls s) :
    Orderly calls (session rounds s) ∧ s.posted <+: (session rounds s).posted ∧
      ((∀ w, s.posted <+: w → w <+: (session rounds s).posted → SoleTurn calls w) ↔
        ∀ before r after, rounds = before ++ r :: after → ¬ Overlaps (session before s) r) := by
  induction rounds generalizing s with
  | nil =>
    refine ⟨h, List.prefix_rfl, iff_of_true (fun w hw hw' => ?_) fun before r after hsplit => ?_⟩
    · rw [← hw.eq_of_length_le hw'.length_le]
      exact h.heads.sole
    · simp at hsplit
  | cons r rounds ih =>
    obtain ⟨hr, hrest⟩ := List.forall_mem_cons.1 hrounds
    have hround := h.round hc hr
    obtain ⟨horderly, hgrows, hsole⟩ := ih hrest hround.orderly
    refine ⟨horderly, hround.grows.trans hgrows, fun hall => ?_, fun hno => ?_⟩
    · have hhere : ¬ Overlaps s r :=
        hround.sole_iff.1 fun w hw hw' => hall w hw (hw'.trans hgrows)
      have hlater := hsole.1 fun w hw hw' => hall w (hround.grows.trans hw) hw'
      rintro (_ | ⟨r', before⟩) r'' after hsplit
      · cases hsplit
        exact hhere
      · cases hsplit
        exact hlater before r'' after rfl
    · have hhere := hround.sole_iff.2 (hno [] r rounds rfl)
      have hlater := hsole.2 fun before r' after hsplit =>
        hno (r :: before) r' after (congrArg (r :: ·) hsplit)
      intro w hw hw'
      rcases List.prefix_or_prefix_of_prefix hw' hgrows with hearly | hlate
      · exact hhere w hw hearly
      · exact hlater w hlate hw'

/-- A service that has just been started over an empty store is orderly. -/
lemma orderly_start (calls : List Call) (rules : Rules) {m : Memory} {registry : Registry}
    (room : Nat) {clients : Clients} (hm : m.shelves = Shelves.empty)
    (hregistry : registry.entries = ∅) (hclients : clients.status = fun _ => none) :
    Orderly calls { start rules m registry room with clients } where
  willing := hclients
  idle := rfl
  inOrder := by
    have hbooks : m.books = Books.empty := (congrArg Shelves.books hm).trans Shelves.books_empty
    refine ⟨?_, ?_, Registry.keyed_of_entries_empty hregistry, fun key p hp => ?_⟩
    · exact hbooks.symm ▸ Books.inStep_empty
    · intro l _ n hn
      have hnone : Books.empty.Lists l.storeKey n := hbooks ▸ hn
      simp [Books.empty, Books.Lists] at hnone
    · cases (Registry.get?_of_entries_empty hregistry key).symm.trans hp
  heads := by
    rintro p - ⟨r, hr, -⟩
    cases hr

/-- When no lane shows two turns at any moment. Calls that fit together are made, each with all its
tasks, while the store may come and go in between. Whenever a call with its tasks is done, no two pull
requests of a lane show that it is their turn. And this is so after every single report exactly if
no removal by hand takes a head that shows its turn out of a lane whose next pull request is on
record. -/
theorem soleTurn_iff {rules : Rules} {m : Memory} {registry : Registry} {room : Nat}
    {clients : Clients} {rounds : List Round} (hm : m.shelves = Shelves.empty)
    (hregistry : registry.entries = ∅) (hclients : clients.status = fun _ => none)
    (hcalls : Paged (rounds.filterMap Round.call?))
    (houtside : ∀ f, Round.outside f ∈ rounds → ∀ m, (f m).shelves = m.shelves)
    (hs : { start rules m registry room with clients } = s) :
    (∀ before after, rounds = before ++ after →
      SoleTurn (rounds.filterMap Round.call?) (session before s).posted) ∧
    ((∀ w, w <+: (session rounds s).posted → SoleTurn (rounds.filterMap Round.call?) w) ↔
      ∀ before r after, rounds = before ++ r :: after → ¬ Overlaps (session before s) r) := by
  have hwithin : ∀ r ∈ rounds, r.Within (rounds.filterMap Round.call?) := by
    intro r hr
    cases r with
    | call c => exact List.mem_filterMap.2 ⟨_, hr, rfl⟩
    | outside f => exact houtside f hr
  have hstart : Orderly (rounds.filterMap Round.call?) s :=
    hs ▸ orderly_start _ rules room hm hregistry hclients
  constructor
  · rintro before after hsplit
    have hbefore : ∀ r ∈ before, r.Within (rounds.filterMap Round.call?) := fun r hr =>
      hwithin r (hsplit ▸ List.mem_append_left after hr)
    exact (hstart.session hcalls hbefore).1.heads.sole
  · have hnone : s.posted = [] := by rw [← hs]; rfl
    rw [← (hstart.session hcalls hwithin).2.2, hnone]
    simp

/-- Two pull requests are opened; the second is taken out by hand, and the first is merged. -/
def handoverRounds : List Round :=
  [.call (.opened (samplePull 1 "one") Time.Timestamp.epoch),
    .call (.opened (samplePull 2 "two") Time.Timestamp.epoch),
    .call (.unbook ⟨⟨"octo", "widgets"⟩, "main"⟩ ⟨2⟩),
    .call (.closed (samplePull 1 "one") (.merged "mona"))]

/-- At no moment do they show two turns, since the one that is taken out is not the head. -/
theorem soleTurn_handover :
    Paged (handoverRounds.filterMap Round.call?) ∧
    (∀ before r after, handoverRounds = before ++ r :: after →
      ¬ Overlaps (session before fresh) r) ∧
    ∀ w, w <+: (session handoverRounds fresh).posted →
      SoleTurn (handoverRounds.filterMap Round.call?) w := by
  have hpaged : Paged (handoverRounds.filterMap Round.call?) :=
    ⟨⟨by decide, by decide, by decide⟩, by decide⟩
  have hno : ∀ before r after, handoverRounds = before ++ r :: after →
      ¬ Overlaps (session before fresh) r := by
    rintro before r after hsplit hover
    cases hover with
    | @unbook l n b c rest p q _ hlane hn =>
      -- The only removal by hand is the third round, and the head is the other pull request.
      obtain ⟨rfl, rfl, rfl⟩ : before = handoverRounds.take 2 ∧ l = ⟨⟨"octo", "widgets"⟩, "main"⟩ ∧
          n = ⟨2⟩ := by
        rcases before with _ | ⟨r₁, _ | ⟨r₂, _ | ⟨r₃, _ | ⟨r₄, before⟩⟩⟩⟩ <;>
          simp_all [handoverRounds]
      have hbookings : (Desk.bookings ⟨⟨"octo", "widgets"⟩, "main"⟩
          (session (handoverRounds.take 2) fresh).store).answer =
          .ok [⟨⟨1⟩, "mona", Time.Timestamp.epoch⟩, ⟨⟨2⟩, "mona", Time.Timestamp.epoch⟩] := by
        decide +kernel
      cases hbookings.symm.trans hlane
      cases hn
  refine ⟨hpaged, hno, ?_⟩
  exact (soleTurn_iff (m := Memory.volatile) rfl rfl rfl hpaged (by simp [handoverRounds]) rfl).2.2
    hno

/-- The head of a lane of two is taken out by hand. -/
def overlappingRounds : List Round :=
  [.call (.opened (samplePull 1 "one") Time.Timestamp.epoch),
    .call (.opened (samplePull 2 "two") Time.Timestamp.epoch),
    .call (.unbook ⟨⟨"octo", "widgets"⟩, "main"⟩ ⟨1⟩)]

/-- A pull request of a repository with a colon in its owner. -/
def colonOwnerPull (n : UInt64) (page : String) : Pull :=
  { samplePull n page with repo := ⟨"a:b", "c"⟩ }

/-- A pull request of another repository, whose lanes are found under the same keys, takes the head
out of the lane when it is closed, and the lane hears nothing of it. -/
def colonRounds : List Round :=
  [.call (.opened (colonOwnerPull 1 "one") Time.Timestamp.epoch),
    .call (.opened (colonOwnerPull 2 "two") Time.Timestamp.epoch),
    .call (.closed { samplePull 1 "other" with repo := ⟨"a", "b:c"⟩ } .dropped),
    .call (.opened (colonOwnerPull 2 "two") Time.Timestamp.epoch)]

/-- Two turns are shown after the third of four reports. And with colons in their names two turns may
be shown for good, though nobody was taken out by hand. -/
theorem two_turns_overlapping :
    (∃ w, w <+: (session overlappingRounds fresh).posted ∧ ShowsTurn "one" w ∧ ShowsTurn "two" w ∧
      ¬ SoleTurn (overlappingRounds.filterMap Round.call?) w) ∧
    ¬ SoleTurn (colonRounds.filterMap Round.call?) (session colonRounds fresh).posted := by
  have hshows : ∀ {url : String} {w : List (StatusTarget × StatusReport)},
      lastReport url w = some ((placeLabel (some 0)).withTarget "link") → ShowsTurn url w :=
    fun h => ⟨_, h, StatusReport.reads_withTarget _ _⟩
  have hone : ShowsTurn "one" ((session overlappingRounds fresh).posted.take 3) :=
    hshows (by decide +kernel)
  have htwo : ShowsTurn "two" ((session overlappingRounds fresh).posted.take 3) :=
    hshows (by decide +kernel)
  have hone' : ShowsTurn "one" (session colonRounds fresh).posted := hshows (by decide +kernel)
  have htwo' : ShowsTurn "two" (session colonRounds fresh).posted := hshows (by decide +kernel)
  refine ⟨⟨_, List.take_prefix 3 _, hone, htwo, fun hsole => ?_⟩, fun hsole => ?_⟩
  · have hsame := hsole (samplePull 1 "one") (by decide) (samplePull 2 "two") (by decide) rfl hone
      htwo
    cases hsame
  · have hsame := hsole (colonOwnerPull 1 "one") (by decide) (colonOwnerPull 2 "two") (by decide) rfl
      hone' htwo'
    cases hsame

end MergeTurn.Service
