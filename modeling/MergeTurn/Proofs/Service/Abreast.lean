import MergeTurn.Proofs.Service.HeadChecks
import MergeTurn.Proofs.Service.LastWord
import MergeTurn.Proofs.Service.Shares

set_option autoImplicit false

/-!
# Two services with one share

Two services that have the same share of a repository do the same when something is done for it:
they answer alike, post the same, and go on to have the same share. What else they hold does not
matter. This is followed here through calls, through statuses that somebody posts and through tasks.

## Main definitions

* `MergeTurn.Service.Abreast` — two services have the same share of a repository, and have posted
  the same meanwhile.
* `MergeTurn.Service.Smooth` — nothing is refused, and the service is in order.

## Main results

* `MergeTurn.Service.Abreast.perform`, `Abreast.checkChanged` — calls and statuses.
* `MergeTurn.Service.Abreast.handle`, `Abreast.runNext` — tasks.
* `MergeTurn.Service.Smooth.moves_handle` — a task tells people of its own repository, if any.

## Design

`KeptByCalls` does not apply, since it is about services with the same store and the same registry.
Whom reports are for is kept along the way: the two services may be one and the same, and then this
says for whom it posts.
-/

namespace MergeTurn

/-! ## Side by side -/

namespace Service

variable {K : Pull → Prop} {r : Repo} {s₀ t₀ s t : Service Memory}

/-- Two services whose reports are not refused have the same share of a repository. All its pull
requests on record are of a kind. Since both were in earlier states they have posted the same, for
pull requests of the kind. -/
structure Abreast (K : Pull → Prop) (r : Repo) (s₀ t₀ s t : Service Memory) : Prop where
  willing : s.clients.status = fun _ => none
  willing' : t.clients.status = fun _ => none
  share : s.share r = t.share r
  records : ∀ n p, s.registry.get? ⟨r, n⟩ = some p → K p
  reports : ∃ w, s.ledger.reports = s₀.ledger.reports ++ w ∧
    t.ledger.reports = t₀.ledger.reports ++ w ∧ ∀ a ∈ w, ∃ p, K p ∧ a.call.1 = p.statusTarget

/-- The head of a lane, if the store can be reached. -/
lemma atDesk_head? (lane : Lane) (s : Service Memory) :
    s.atDesk (Desk.head lane) =
      (if s.store.refusal? = some Memory.offline then .error (.store Memory.offline)
        else .ok (s.store.books.list lane.storeKey).head?, s) := by
  refine (atDesk_read_eq _ _ s).trans ?_
  rw [Shelves.front, List.head?_take]
  rfl

namespace Abreast

/-- Services with the same share are abreast. -/
lemma refl (hs : s.clients.status = fun _ => none) (ht : t.clients.status = fun _ => none)
    (h : s.share r = t.share r) (hrecords : ∀ n p, s.registry.get? ⟨r, n⟩ = some p → K p) :
    Abreast K r s t s t :=
  ⟨hs, ht, h, hrecords, [], (List.append_nil _).symm, (List.append_nil _).symm, nofun⟩

variable (h : Abreast K r s₀ t₀ s t)
include h

/-- Both stores refuse the same. -/
lemma refusal : s.store.refusal? = t.store.refusal? := congrArg Share.refusal h.share

/-- Both have the same lanes of the repository. -/
lemma lane {l : Lane} (hl : l.repo = r) :
    s.store.books.list l.storeKey = t.store.books.list l.storeKey :=
  (alikeFor_of_share h.share).lane hl

/-- In both a pull request has the same place in a lane of the repository. -/
lemma place {l : Lane} (hl : l.repo = r) (n : PullNumber) :
    s.store.books.place l n = t.store.books.place l n := by
  rw [Books.place, h.lane hl, Books.place]

/-- Both have the same on record. -/
lemma record? {repo : Repo} (hrepo : repo = r) (n : PullNumber) :
    s.registry.get? ⟨repo, n⟩ = t.registry.get? ⟨repo, n⟩ := by
  subst hrepo
  exact congrFun (congrArg Share.records h.share) n

/-- What is on record of the repository is of the kind. -/
lemma of_record {repo : Repo} (hrepo : repo = r) {n : PullNumber} {p : Pull}
    (hp : t.registry.get? ⟨repo, n⟩ = some p) : K p := by
  rw [← h.record? hrepo] at hp
  exact h.records n p (hrepo ▸ hp)

/-- Both post a status. -/
lemma post {p : Pull} (hp : K p) (lane : Lane) (report : StatusReport) :
    Agree (Abreast K r s₀ t₀) (s.post lane p report) (t.post lane p report) := by
  obtain ⟨w, hs, ht, hof⟩ := h.reports
  rw [post_of_willing h.willing, post_of_willing h.willing']
  refine ⟨rfl, h.willing, h.willing', h.share, h.records,
    w ++ [⟨(p.statusTarget, report.withTarget p.pageUrl), none⟩], ?_, ?_, fun a ha => ?_⟩
  · rw [hs, List.append_assoc]
  · rw [ht, List.append_assoc]
  · rcases List.mem_append.1 ha with ha | ha
    · exact hof a ha
    · exact ⟨p, hp, by rw [List.mem_singleton.1 ha]⟩

/-- Both publish something. -/
lemma publish (e : Event) : Abreast K r s₀ t₀ (s.publish e) (t.publish e) := by
  refine ⟨h.willing, h.willing', ?_, h.records, h.reports⟩
  rw [share_publish, share_publish, h.share]

/-- Both publish changes of lanes. -/
lemma publishAll (es : List LaneEvent) :
    Abreast K r s₀ t₀ (s.publishAll es) (t.publishAll es) := by
  induction es generalizing s t with
  | nil => exact h
  | cons e es ih => exact ih (h.publish (.lane e))

/-- Both record a pull request. -/
lemma record {p : Pull} (hp : K p) :
    Abreast K r s₀ t₀ (s.withRegistry (·.record p)) (t.withRegistry (·.record p)) := by
  refine ⟨h.willing, h.willing', ?_, fun n q hq => ?_, h.reports⟩
  · rw [share_record, share_record, h.share]
  · rw [show (s.withRegistry (·.record p)).registry = s.registry.record p from rfl,
      Registry.get?_record] at hq
    split_ifs at hq
    · exact Option.some.inj hq ▸ hp
    · exact h.records n q hq

/-- Both forget a pull request. -/
lemma forget (key : PullKey) :
    Abreast K r s₀ t₀ (s.withRegistry (·.forget key)) (t.withRegistry (·.forget key)) := by
  refine ⟨h.willing, h.willing', ?_, fun n q hq => ?_, h.reports⟩
  · rw [share_forget, share_forget, h.share]
  · rw [show (s.withRegistry (·.forget key)).registry = s.registry.forget key from rfl,
      Registry.get?_forget] at hq
    split_ifs at hq
    exact h.records n q hq

/-- The desk does the same at both stores. -/
lemma atDesk {α : Type} {op : Memory → Turn Memory α}
    (hanswer : (op s.store).answer = (op t.store).answer)
    (hpublished : (op s.store).published = (op t.store).published)
    (hrefusal : (op s.store).store.refusal? = (op t.store).store.refusal?)
    (hbooks : (op s.store).store.books.AlikeFor r (op t.store).store.books) :
    Agree (Abreast K r s₀ t₀) (s.atDesk op) (t.atDesk op) := by
  have hstored : Abreast K r s₀ t₀ { s with store := (op s.store).store }
      { t with store := (op t.store).store } := by
    refine ⟨h.willing, h.willing', ?_, h.records, h.reports⟩
    exact Share.ext (congrArg Share.rules h.share :) hrefusal (funext hbooks.list)
      (funext hbooks.member) (congrArg Share.records h.share :) (congrArg Share.tasks h.share :)
      (congrArg Share.messenger h.share :)
  refine ⟨hanswer, ?_⟩
  simp only [Service.atDesk, hpublished]
  exact hstored.publishAll _

/-- Both desks take a booking for the repository. -/
lemma book {l : Lane} (hl : l.repo = r) (b : Booking) :
    Agree (Abreast K r s₀ t₀) (s.book l b) (t.book l b) := by
  obtain ⟨hanswer, hpublished, hbooks⟩ :=
    Desk.book_alike hl b h.refusal (alikeFor_of_share h.share)
  refine h.atDesk hanswer hpublished ?_ hbooks
  have hs := (Desk.serve_frame s.store (.book l b)).1
  have ht := (Desk.serve_frame t.store (.book l b)).1
  exact hs.trans (h.refusal.trans ht.symm)

/-- Both desks take a removal for the repository. -/
lemma unbook {l : Lane} (hl : l.repo = r) (n : PullNumber) (closed : Bool) :
    Agree (Abreast K r s₀ t₀) (s.unbook l n closed) (t.unbook l n closed) := by
  obtain ⟨hanswer, hpublished, hbooks⟩ :=
    Desk.unbook_alike hl n closed h.refusal (alikeFor_of_share h.share)
  refine h.atDesk hanswer hpublished ?_ hbooks
  have hs := (Desk.serve_frame s.store (.unbook l n closed)).1
  have ht := (Desk.serve_frame t.store (.unbook l n closed)).1
  exact hs.trans (h.refusal.trans ht.symm)

/-- Both look up a place and post its label. -/
lemma labelPlace {p : Pull} (hp : p.repo = r) (hK : K p) :
    Agree (Abreast K r s₀ t₀) (s.labelPlace p) (t.labelPlace p) := by
  simp only [Service.labelPlace, atDesk_position, h.refusal, h.place (l := p.lane) hp]
  split_ifs
  · exact ⟨rfl, h⟩
  · exact ⟨rfl, (h.post hK p.lane _).2⟩

/-- A pull request of the repository is opened at both. -/
lemma opened {p : Pull} (hp : p.repo = r) (hK : K p) (clock : Time.Timestamp) :
    Agree (Abreast K r s₀ t₀) (s.opened p clock) (t.opened p clock) := by
  unfold Service.opened
  obtain ⟨e, s', t', hs, ht, h'⟩ | ⟨outcome, s', t', hs, ht, h'⟩ :=
    ((h.record hK).book (l := p.lane) hp ⟨p.number, p.author, clock⟩).cases
  · rw [hs, ht]
    exact ⟨rfl, h'⟩
  · rw [hs, ht]
    cases outcome with
    | added place => exact ⟨rfl, h'⟩
    | duplicate =>
      dsimp only
      obtain ⟨e, s'', t'', hs, ht, h''⟩ | ⟨place, s'', t'', hs, ht, h''⟩ :=
        (h'.labelPlace hp hK).cases
      · rw [hs, ht]
        exact ⟨rfl, h''⟩
      · rw [hs, ht]
        exact ⟨rfl, h''⟩

/-- A pull request of the repository is closed at both. -/
lemma closed {p : Pull} (hp : p.repo = r) (hK : K p) (closing : Closing) :
    Agree (Abreast K r s₀ t₀) (s.closed p closing) (t.closed p closing) := by
  unfold Service.closed
  obtain ⟨e, s', t', hs, ht, h'⟩ | ⟨outcome, s', t', hs, ht, h'⟩ :=
    (h.unbook (l := p.lane) hp p.number true).cases
  · rw [hs, ht]
    exact ⟨rfl, h'⟩
  · rw [hs, ht]
    exact ⟨rfl, (h'.post hK p.lane closing.label).2.forget p.key⟩

/-- A call that concerns the repository is answered alike. -/
theorem perform {c : Call} (hc : c.lane.repo = r) (hK : ∀ p, c.pull? = some p → K p) :
    Agree (Abreast K r s₀ t₀) (s.perform c) (t.perform c) := by
  cases c with
  | opened p clock => exact (h.opened hc (hK p rfl) clock).imp_left (congrArg Reply.booked)
  | updated p =>
    exact ((h.record (hK p rfl)).labelPlace hc (hK p rfl)).imp_left (congrArg Reply.placed)
  | closed p closing => exact (h.closed hc (hK p rfl) closing).imp_left (congrArg Reply.unbooked)
  | book l b => exact (h.book hc b).imp_left (congrArg Reply.booked)
  | unbook l n => exact (h.unbook hc n false).imp_left (congrArg Reply.unbooked)

/-- A status on a commit of the repository is answered alike. -/
theorem checkChanged (hs : s.registry.Keyed) (ht : t.registry.Keyed) {change : CheckChange}
    (hchange : change.repo = r) :
    Agree (Abreast K r s₀ t₀) (s.checkChanged change) (t.checkChanged change) := by
  have hfound := Registry.findByHead?_congr hs ht (h.record? hchange) change.commit
  have hcontext : s.rules.context = t.rules.context :=
    congrArg (fun x : Share => x.rules.context) h.share
  simp only [Service.checkChanged, hcontext, hfound]
  split
  · exact ⟨rfl, h⟩
  · cases hp : t.registry.findByHead? change.repo change.commit with
    | none => exact ⟨rfl, h⟩
    | some p =>
      have hrepo : p.lane.repo = r := (Registry.repo_of_findByHead? hp).trans hchange
      by_cases hoffline : t.store.refusal? = some Memory.offline
      · simp only [atDesk_head?, h.refusal, if_pos hoffline]
        exact ⟨rfl, h⟩
      · simp only [atDesk_head?, h.refusal, h.lane hrepo, if_neg hoffline]
        cases (t.store.books.list p.lane.storeKey).head? with
        | none => exact ⟨rfl, h⟩
        | some b =>
          dsimp only
          split_ifs
          · exact ⟨rfl, h⟩
          · exact ⟨rfl, h.publish _⟩
          · exact ⟨rfl, h⟩

/-- Both set the labels of bookings of the repository from a place on. -/
lemma labelFrom {lane : Lane} (hl : lane.repo = r) (place : Nat) (bs : List Booking) :
    Abreast K r s₀ t₀ (s.labelFrom lane place bs).2 (t.labelFrom lane place bs).2 := by
  induction bs generalizing s t place with
  | nil => exact h
  | cons b bs ih =>
    simp only [Service.labelFrom, h.record? hl]
    cases hp : t.registry.get? ⟨lane.repo, b.number⟩ with
    | none => exact ih h _
    | some p => exact ih (h.post (h.of_record hl hp) lane _).2 _

/-- Both set the label of a booking of the repository. -/
lemma onAdded {lane : Lane} (hl : lane.repo = r) (n : PullNumber) :
    Abreast K r s₀ t₀ (s.onAdded lane n) (t.onAdded lane n) := by
  simp only [Service.onAdded, h.record? hl, atDesk_position, h.refusal, h.place hl]
  cases hp : t.registry.get? ⟨lane.repo, n⟩ with
  | none => exact h
  | some p =>
    dsimp only
    split_ifs
    · exact h
    · exact (h.post (h.of_record hl hp) lane _).2

/-- Both set the labels of a lane of the repository after a removal. -/
lemma onRemoved {lane : Lane} (hl : lane.repo = r) (n : PullNumber) (closed : Bool) :
    Abreast K r s₀ t₀ (s.onRemoved lane n closed) (t.onRemoved lane n closed) := by
  simp only [Service.onRemoved, relabel, atDesk_firstBookings, h.refusal, h.lane hl]
  by_cases hoffline : t.store.refusal? = some Memory.offline
  · simp only [if_pos hoffline]
    exact h
  · have hlabels := h.labelFrom hl 0 ((t.store.books.list lane.storeKey).take (lastShownPlace + 1))
    simp only [if_neg hoffline, hlabels.record? hl]
    split_ifs
    · exact hlabels
    · split
      · exact hlabels
      · next p hp => exact (hlabels.post (hlabels.of_record hl hp) lane _).2

end Abreast

/-! ## What people are told -/

/-- No report and no notice is refused, all pull requests on record are of a kind, and alarms are as
they should be. -/
structure Smooth (K : Pull → Prop) (s : Service Memory) : Prop where
  status : s.clients.status = fun _ => none
  notice : s.clients.notice = fun _ => none
  records : s.registry.Only K
  tallied : ∃ d, Tallied d s

/-- The registry is in order. -/
lemma Smooth.keyed (h : Smooth K s) : s.registry.Keyed :=
  fun key p hp => (h.records key p hp).1

/-- Two such services with the same share of a repository are abreast. -/
lemma Smooth.abreast (hs : Smooth K s) (ht : Smooth K t) (h : s.share r = t.share r) :
    Abreast (fun p => p.repo = r ∧ K p) r s t s t :=
  .refl hs.status ht.status h fun n p hp =>
    have hrecord := hs.records ⟨r, n⟩ p hp
    ⟨congrArg PullKey.repo hrecord.1, hrecord.2⟩

/-- It does not matter which tasks are left. -/
lemma Smooth.withTasks (h : Smooth K s) (tasks : List Task) : Smooth K { s with tasks } :=
  ⟨h.status, h.notice, h.records, h.tallied.imp fun _ hd => hd.congr rfl rfl rfl rfl⟩

/-- A change of a lane is told to people of that lane only. -/
lemma Smooth.moves_onChange (h : Smooth K s) (e : LaneEvent) :
    s.messenger.Moves e.lane.repo (s.onChange e).messenger := by
  obtain ⟨d, hd⟩ := h.tallied
  cases e with
  | added l b place =>
    simp only [onChange]
    split_ifs
    · rw [hd.messenger_notifyHead h.notice]
      exact .tell rfl ..
    · exact .still
  | removed l b removal =>
    obtain ⟨answer, hread⟩ : ∃ answer, s.atDesk (Desk.head l) = (answer, s) := atDesk_read _ _ s
    simp only [onChange, hread]
    split_ifs
    · rcases answer with _ | (_ | b)
      · exact .still
      · rw [hd.messenger_vacate]
        exact .vacate rfl
      · rw [hd.messenger_notifyHead h.notice]
        exact .tell rfl ..
    · exact .still

/-- A task tells only people of its repository anything. -/
lemma Smooth.moves_handle (h : Smooth K s) (task : Task) :
    s.messenger.Moves task.repo (s.handle task.handler task.event).messenger := by
  obtain ⟨d, hd⟩ := h.tallied
  have hkept := (upheld_unmoved s).kept
  have hself : s = s ∧ Unmoved s s := ⟨rfl, Unmoved.refl s⟩
  have hstill : ∀ {t : Service Memory}, Unmoved s t → s.messenger.Moves task.repo t.messenger :=
    fun hunmoved => hunmoved.messenger_eq ▸ .still
  obtain ⟨handler, e⟩ := task
  cases handler with
  | labelAdded =>
    rcases e with (_ | _) | _ | _
    case lane.added l b place => exact hstill (hkept.onAdded hself l b.number).2
    all_goals exact .still
  | labelRemoved =>
    rcases e with (_ | _) | _ | _
    case lane.removed l b removal =>
      exact hstill (hkept.onRemoved hself l b.number removal.closed).2
    all_goals exact .still
  | noticeHead => cases e <;> first | exact h.moves_onChange _ | exact .still
  | noticeChecks =>
    rcases e with _ | c | _
    case checks => exact hd.messenger_onChecks h.notice c ▸ .take rfl ..
    all_goals exact .still
  | measure => cases e <;> first | exact hstill (hkept.measure hself _).2 | exact .still
  | watch => cases e <;> first | exact hstill (hkept.showLane hself _).2 | exact .still

namespace Abreast

variable {K' : Pull → Prop} (h : Abreast K' r s₀ t₀ s t) (hs : Smooth K s) (ht : Smooth K t)
include h hs ht

/-- Both tell people of a change of a lane of the repository. -/
lemma onChange {e : LaneEvent} (he : e.lane.repo = r) :
    (s.onChange e).messenger.only r = (t.onChange e).messenger.only r := by
  obtain ⟨d, hd⟩ := hs.tallied
  obtain ⟨d', hd'⟩ := ht.tallied
  have hmessenger : s.messenger.only r = t.messenger.only r := congrArg Share.messenger h.share
  have htell : ∀ {l : Lane}, l.repo = r → ∀ n username,
      (s.notifyHead l n username).messenger.only r =
        (t.notifyHead l n username).messenger.only r := by
    intro l hl n username
    rw [hd.messenger_notifyHead hs.notice, hd'.messenger_notifyHead ht.notice,
      Messenger.only_tell _ hl, Messenger.only_tell _ hl, hmessenger]
  cases e with
  | added l b place =>
    simp only [Service.onChange]
    split_ifs
    · exact htell he ..
    · exact hmessenger
  | removed l b removal =>
    have hl : l.repo = r := he
    simp only [Service.onChange, atDesk_head?, h.refusal, h.lane hl]
    by_cases hoffline : t.store.refusal? = some Memory.offline
    · simp only [if_pos hoffline]
      split_ifs <;> exact hmessenger
    · simp only [if_neg hoffline]
      split_ifs
      · cases (t.store.books.list l.storeKey).head? with
        | none =>
          simp only [hd.messenger_vacate, hd'.messenger_vacate]
          rw [Messenger.only_vacate _ hl, Messenger.only_vacate _ hl, hmessenger]
        | some b => exact htell hl ..
      · exact hmessenger

/-- Both take a result of checks for a lane of the repository. -/
lemma onChecks (hnow : s.now = t.now) {c : HeadChecks} (hc : c.lane.repo = r) :
    (s.onChecks c).messenger.only r = (t.onChecks c).messenger.only r := by
  obtain ⟨d, hd⟩ := hs.tallied
  obtain ⟨d', hd'⟩ := ht.tallied
  have hmessenger : s.messenger.only r = t.messenger.only r := congrArg Share.messenger h.share
  have hrules : s.rules = t.rules := congrArg Share.rules h.share
  rw [hd.messenger_onChecks hs.notice, hd'.messenger_onChecks ht.notice,
    Messenger.only_take _ hc, Messenger.only_take _ hc, hmessenger, hnow, hrules]

/-- Both tell people the same about the repository when they do a task that has nothing to do with
labels. -/
lemma messenger_handle (hnow : s.now = t.now) {task : Task} (htask : task.repo = r)
    (hchange : task.labelChange? = none) :
    (s.handle task.handler task.event).messenger.only r =
      (t.handle task.handler task.event).messenger.only r := by
  have hmessenger : s.messenger.only r = t.messenger.only r := congrArg Share.messenger h.share
  have hself : ∀ u : Service Memory, u = u ∧ Unmoved u u := fun u => ⟨rfl, Unmoved.refl u⟩
  obtain ⟨handler, e⟩ := task
  cases handler with
  | labelAdded => rcases e with (_ | _) | _ | _ <;> first | exact hmessenger | cases hchange
  | labelRemoved => rcases e with (_ | _) | _ | _ <;> first | exact hmessenger | cases hchange
  | noticeHead => cases e <;> first | exact h.onChange hs ht htask | exact hmessenger
  | noticeChecks => cases e <;> first | exact h.onChecks hs ht hnow htask | exact hmessenger
  | measure =>
    rcases e with e | _ | _
    case lane =>
      have hmeasure := fun u => ((upheld_unmoved u).kept.measure (hself u) e).2.messenger_eq
      exact (congrArg _ (hmeasure s)).trans (hmessenger.trans (congrArg _ (hmeasure t)).symm)
    all_goals exact hmessenger
  | watch =>
    rcases e with e | _ | _
    case lane =>
      have hshow := fun u => ((upheld_unmoved u).kept.showLane (hself u) e.lane).2.messenger_eq
      exact (congrArg _ (hshow s)).trans (hmessenger.trans (congrArg _ (hshow t)).symm)
    all_goals exact hmessenger

/-- Both do a task of the repository. -/
theorem handle (hnow : s.now = t.now) {task : Task} (htask : task.repo = r) :
    Abreast K' r s₀ t₀ (s.handle task.handler task.event) (t.handle task.handler task.event) := by
  cases hchange : task.labelChange? with
  | some e =>
    rcases Task.of_labelChange? hchange with ⟨l, b, place, rfl, rfl⟩ | ⟨l, b, removal, rfl, rfl⟩
    · exact h.onAdded htask b.number
    · exact h.onRemoved htask b.number removal.closed
  | none =>
    obtain ⟨d, hd⟩ := hs.tallied
    obtain ⟨d', hd'⟩ := ht.tallied
    have hs' := handle_alike hchange s
    have ht' := handle_alike hchange t
    have hmessenger := h.messenger_handle hs ht hnow htask hchange
    refine ⟨hs'.clients ▸ h.willing, ht'.clients ▸ h.willing', ?_, hs'.registry ▸ h.records, ?_⟩
    · rw [hs'.share_eq (hd.enters_handle task).rules, ht'.share_eq (hd'.enters_handle task).rules,
        hmessenger, h.share]
    · rw [hs'.reports, ht'.reports]
      exact h.reports

/-- Both do the next task, one of the repository. -/
theorem runNext (hnow : s.now = t.now) {task : Task} {rest rest' : List Task}
    (htasks : s.tasks = task :: rest) (htasks' : t.tasks = task :: rest') (htask : task.repo = r) :
    Abreast K' r s₀ t₀ s.runNext t.runNext := by
  have hrest : rest.filter (·.repo = r) = rest'.filter (·.repo = r) := by
    have hshare : s.tasks.filter (·.repo = r) = t.tasks.filter (·.repo = r) :=
      congrArg Share.tasks h.share
    simpa [htasks, htasks', htask] using hshare
  have htaken : Abreast K' r s₀ t₀ { s with tasks := rest } { t with tasks := rest' } := by
    refine ⟨h.willing, h.willing', ?_, h.records, h.reports⟩
    exact Share.ext (congrArg Share.rules h.share :) (congrArg Share.refusal h.share :)
      (congrArg Share.lists h.share :) (congrArg Share.members h.share :)
      (congrArg Share.records h.share :) hrest (congrArg Share.messenger h.share :)
  rw [Service.runNext, htasks, Service.runNext, htasks']
  exact htaken.handle (hs.withTasks rest) (ht.withTasks rest') hnow htask

end Abreast

end Service

end MergeTurn
