import MergeTurn.Proofs.Service.Accounts
import MergeTurn.Proofs.Service.HeadChecks
import MergeTurn.Proofs.Service.Messenger
import MergeTurn.Proofs.Service.Rounds
import MergeTurn.Webhook.Endpoint

set_option autoImplicit false

/-!
# Webhooks that are delivered twice

Whoever sends webhooks sends one again if its delivery is in doubt. Nothing tells the second from
the first, so it is applied as well. That is harmless: a pull request that is booked is not booked
again, one that is gone cannot be taken out again, a label that is posted again says the same, and a
result of checks that is taken again takes its own place.

A list may hold a pull request twice, if two lanes go by one name. Then each closing takes it out
once, and the second one is not harmless.

## Main definitions

* `MergeTurn.Service.applied` — the service after a webhook and all tasks that follow.
* `MergeTurn.Service.Harmless` — what was done once more cannot be told from what was done once.
* `MergeTurn.Service.Echoes` — what is done repeats what was done last.
* `MergeTurn.Service.ClosesOneOfTwo` — a closing of a pull request that a list holds twice.

## Main results

* `MergeTurn.Service.echoes_opened`, `echoes_updated`, `echoes_closed` — calls that repeat.
* `MergeTurn.Service.harmless_check` — statuses that repeat.
* `MergeTurn.Service.redelivery_harmless_iff` — which webhooks may be delivered twice.
-/

namespace MergeTurn

/-- The pull request that a webhook tells about, if it tells about one. -/
def Webhook.Event.pull? : Webhook.Event → Option Pull
  | .pull _ p => some p
  | _ => none

/-- The repository that a webhook tells about, if it tells about one. -/
def Webhook.Event.repo? : Webhook.Event → Option Repo
  | .pull _ p => some p.repo
  | .check change => some change.repo
  | .ping => none

/-! ## Requests that are made again -/

/-- A list has one booking of a pull request less without the first of them. -/
lemma countP_eraseP {bs : List Booking} {n : PullNumber} (h : bs.any (·.number == n) = true) :
    (bs.eraseP (·.number == n)).countP (·.number == n) + 1 = bs.countP (·.number == n) := by
  obtain ⟨b, hb, hn⟩ := List.any_eq_true.1 h
  obtain ⟨first, before, after, -, hfirst, rfl, herase⟩ :=
    List.exists_of_eraseP (p := (·.number == n)) hb hn
  have hcons : (first :: after).countP (·.number == n) = after.countP (·.number == n) + 1 :=
    List.countP_cons_of_pos hfirst
  rw [herase, List.countP_append, List.countP_append, hcons, Nat.add_assoc]

namespace Desk

variable {l : Lane} {n : PullNumber} {closed : Bool} {b c : Booking} {m t : Memory}

/-- A booking that was made is a duplicate when it is made again, at whatever time. Otherwise the
answer is the same. -/
lemma book_again (hnumber : c.number = b.number) (hflaw : c.flaw? = b.flaw?)
    (hbooks : t.books = (book l b m).store.books) (hrefusal : t.refusal? = m.refusal?) :
    (book l c t).answer = match (book l b m).answer with
      | .ok _ => .ok .duplicate
      | .error e => .error e := by
  have hends := book_memory l b m
  have hanswer := book_answer l b m
  rw [book_answer, hnumber, hflaw, hrefusal]
  generalize book l b m = turn at hends hbooks hanswer ⊢
  cases hf : b.flaw? with
  | some reason =>
    rw [hf] at hanswer
    rw [hanswer]
  | none =>
    rw [hf] at hanswer
    split_ifs at hanswer ⊢
    · rw [hanswer]
    · cases hends with
      | kept ha h =>
        rw [hbooks, h]
        cases hm : m.books.member l.repo.storeKey b.number <;> cases hr : m.refusal? <;>
          simp only [hm, hr] at hanswer <;> subst hanswer
        · exact absurd rfl (ha _)
        all_goals rfl
      | added _ _ h =>
        have hmember : t.books.member l.repo.storeKey b.number = true := by
          simp [hbooks, h, Books.addMember]
        rw [hmember]

/-- A removal that was made finds nothing when it is made again, unless the pull request was in the
list twice. Otherwise the answer is the same. -/
lemma unbook_again (hbooks : t.books = (unbook l n closed m).store.books)
    (hrefusal : t.refusal? = m.refusal?)
    (honce : ¬ (m.refusal? = none ∧ 2 ≤ (m.books.list l.storeKey).countP (·.number == n))) :
    (unbook l n closed t).answer = match (unbook l n closed m).answer with
      | .ok _ => .ok .notBooked
      | .error e => .error e := by
  have hends := unbook_memory l n closed m
  have hanswer := unbook_answer l n closed m
  have hremoved : ∀ b r, (unbook l n closed m).answer = .ok (.removed b r) → m.refusal? = none :=
    fun _ _ => refusal?_of_removed
  rw [unbook_answer, hrefusal]
  generalize unbook l n closed m = turn at hends hbooks hanswer hremoved ⊢
  split_ifs at hanswer ⊢
  · rw [hanswer]
  · cases hends with
    | kept ha h =>
      rw [hbooks, h]
      cases hf : (m.books.list l.storeKey).find? (·.number == n) <;> cases hr : m.refusal? <;>
        simp only [hf, hr] at hanswer <;> subst hanswer
      · rfl
      · rfl
      · exact absurd rfl (ha _ _)
      · rfl
    | removed _ _ hl _ h =>
      have hnone : (t.books.list l.storeKey).find? (·.number == n) = none := by
        have hcount : ¬ 2 ≤ (m.books.list l.storeKey).countP (·.number == n) := fun htwo =>
          honce ⟨hremoved _ _ rfl, htwo⟩
        have hless := countP_eraseP (Books.lists_iff_any.1 hl)
        have hlist : t.books.list l.storeKey =
            (m.books.list l.storeKey).eraseP (·.number == n) := by
          simp [hbooks, h, Books.removeFirst]
        rw [hlist, List.find?_eq_none]
        exact List.countP_eq_zero.1 (by omega)
      rw [hnone]

/-- A removal takes the first booking of a pull request out of the list, if there is one and the
store takes changes. -/
lemma countP_unbook (l : Lane) (n : PullNumber) (closed : Bool) (hm : m.refusal? = none)
    (h : (m.books.list l.storeKey).any (·.number == n) = true) :
    ((unbook l n closed m).store.books.list l.storeKey).countP (·.number == n) + 1 =
      (m.books.list l.storeKey).countP (·.number == n) := by
  have hends := unbook_memory l n closed m
  have hanswer := unbook_answer l n closed m
  rw [hm, if_neg nofun] at hanswer
  generalize unbook l n closed m = turn at hends hanswer ⊢
  cases hends with
  | kept ha _ =>
    cases hf : (m.books.list l.storeKey).find? (·.number == n) with
    | none =>
      obtain ⟨b, hb, hn⟩ := List.any_eq_true.1 h
      exact absurd hn (List.find?_eq_none.1 hf b hb)
    | some b =>
      rw [hf] at hanswer
      exact absurd hanswer (ha _ _)
  | removed _ _ _ _ hbooks =>
    rw [← countP_eraseP h, hbooks]
    simp [Books.removeFirst]

end Desk

namespace Service

variable {d : Docket} {s t u : Service Memory} {p : Pull} {clock : Time.Timestamp}
  {closing : Closing}

/-- The service when what a webhook tells has been done, and all tasks that follow. -/
def applied (e : Webhook.Event) (clock : Time.Timestamp) (s : Service Memory) : Service Memory :=
  (Webhook.apply e clock s).2.settle

/-- What was done once more cannot be told from what was done once: lists and sets, the pull
requests on record and the last status of each page are the same, no change of a lane was published,
and people were told nothing else and will be told nothing else, in any time to come. -/
structure Harmless (s t : Service Memory) : Prop where
  books : t.store.books = s.store.books
  registry : t.registry.entries = s.registry.entries
  reports : ∀ url, lastReport url t.posted = lastReport url s.posted
  changes : t.ledger.events.filterMap Event.change? = s.ledger.events.filterMap Event.change?
  notices : t.ledger.notices = s.ledger.notices
  later : ∀ ms, (t.advance ms).ledger.notices = (s.advance ms).ledger.notices
  eventually : t.drain.ledger.notices = s.drain.ledger.notices

/-- What people will be told is settled by the messenger and the time. -/
lemma Harmless.of_messenger (hs : Quiet s) (ht : Quiet t) (hbooks : t.store.books = s.store.books)
    (hregistry : t.registry.entries = s.registry.entries)
    (hreports : ∀ url, lastReport url t.posted = lastReport url s.posted)
    (hchanges : t.ledger.events.filterMap Event.change? =
      s.ledger.events.filterMap Event.change?)
    (hmessenger : t.messenger = s.messenger) (hnow : t.now = s.now) : Harmless s t where
  books := hbooks
  registry := hregistry
  reports := hreports
  changes := hchanges
  notices := congrArg Messenger.sent hmessenger
  later ms := by
    have hlater := ht.advance ms
    rw [hmessenger, hnow, ← hs.advance] at hlater
    exact congrArg Messenger.sent hlater
  eventually := by
    have hlater := ht.drain
    rw [hmessenger, ← hs.drain] at hlater
    exact congrArg Messenger.sent hlater

/-! ## Repetitions -/

/-- What is done repeats what was done last: at most the same reports are posted again. -/
structure Echoes (s t : Service Memory) : Prop extends Unmoved s t where
  clients : t.clients = s.clients
  tasks : t.tasks = s.tasks
  books : t.store.books = s.store.books
  registry : t.registry.entries = s.registry.entries
  reports : ∀ url, lastReport url t.posted = lastReport url s.posted
  changes : t.ledger.events.filterMap Event.change? = s.ledger.events.filterMap Event.change?

namespace Echoes

/-- Nothing is done. -/
lemma refl (s : Service Memory) : Echoes s s :=
  ⟨.refl s, rfl, rfl, rfl, rfl, fun _ => rfl, rfl⟩

/-- Records change, but not what is on record. -/
lemma withRegistry (h : Echoes s t) {f : Registry → Registry}
    (hf : (f t.registry).entries = t.registry.entries) : Echoes s (t.withRegistry f) :=
  { h with registry := hf.trans h.registry }

/-- The desk publishes nothing, since the books do not change. -/
lemma atDesk {α : Type} (h : Echoes s t) (op : Memory → Turn Memory α)
    (hbooks : (op t.store).store.books = t.store.books) (hnone : (op t.store).published = []) :
    Echoes s (t.atDesk op).2 := by
  have hturn : (t.atDesk op).2 = { t with store := (op t.store).store } := by
    simp only [Service.atDesk, hnone]
    rfl
  rw [hturn]
  exact { h with books := hbooks.trans h.books }

/-- A page is told what it was told last. -/
lemma post (h : Echoes s t) (hstatus : t.clients.status = fun _ => none) (lane : Lane)
    {report : StatusReport}
    (hlast : lastReport p.statusUrl t.posted = some (report.withTarget p.pageUrl)) :
    Echoes s (t.post lane p report).2 := by
  have hposted := posted_post hstatus lane p report
  rw [post_of_willing hstatus] at hposted ⊢
  refine { h with reports := fun url => ?_ }
  rw [hposted, lastReport_append, ← h.reports]
  split_ifs with hurl
  · rw [hurl]
    exact hlast.symm
  · rfl

/-- A page is told the place that it was told last. -/
lemma labelPlace (h : Echoes s t) (hstatus : t.clients.status = fun _ => none)
    (hlast : t.store.refusal? ≠ some Memory.offline → lastReport p.statusUrl t.posted =
      some ((placeLabel (t.store.books.place p.lane p.number)).withTarget p.pageUrl)) :
    Echoes s (t.labelPlace p).2 := by
  unfold Service.labelPlace
  rw [atDesk_position]
  split_ifs with hoffline
  · exact h
  · exact h.post hstatus p.lane (hlast hoffline)

/-- Once all has come to rest, a repetition is harmless. -/
lemma harmless (h : Echoes s t) (hs : Quiet s) : Harmless s t := by
  obtain ⟨d, hd⟩ := hs.tallied
  refine .of_messenger hs ⟨h.tasks.trans hs.idle, ?_, ?_⟩ h.books h.registry h.reports h.changes
    h.toUnmoved.messenger_eq h.now
  · rw [h.clients]
    exact hs.willing
  · exact ⟨d, hd.congr h.rules h.dispatch h.alarms h.now⟩

end Echoes

/-- A page shows the place of a pull request that is on record. -/
structure Labels (p : Pull) (s : Service Memory) : Prop where
  record : s.registry.get? p.key = some p
  label : s.store.refusal? ≠ some Memory.offline → lastReport p.statusUrl s.posted =
    some ((placeLabel (s.store.books.place p.lane p.number)).withTarget p.pageUrl)

/-- New commits of a pull request are told again. -/
lemma echoes_updated (hstatus : s.clients.status = fun _ => none) (h : Labels p s) :
    Echoes s (s.updated p).2 :=
  ((Echoes.refl s).withRegistry (Registry.entries_record h.record)).labelPlace hstatus h.label

/-- A pull request is opened again that was opened already. -/
lemma echoes_opened (hstatus : s.clients.status = fun _ => none)
    (hrecord : s.registry.get? p.key = some p)
    (hbook : ∀ place, (Desk.book p.lane ⟨p.number, p.author, clock⟩ s.store).answer ≠
      .ok (.added place))
    (hlabel : (Desk.book p.lane ⟨p.number, p.author, clock⟩ s.store).answer = .ok .duplicate →
      Labels p s) : Echoes s (s.opened p clock).2 := by
  have hanswer : ((s.withRegistry (·.record p)).book p.lane ⟨p.number, p.author, clock⟩).1 =
    (Desk.book p.lane ⟨p.number, p.author, clock⟩ s.store).answer := rfl
  have hstore : ((s.withRegistry (·.record p)).book p.lane ⟨p.number, p.author, clock⟩).2.store =
    (Desk.book p.lane ⟨p.number, p.author, clock⟩ s.store).store := store_atDesk ..
  have hrefusal := (Desk.serve_frame (m := s.store) (.book p.lane ⟨p.number, p.author, clock⟩)).1
  have hrecorded : Echoes s (s.withRegistry (·.record p)) :=
    (Echoes.refl s).withRegistry (Registry.entries_record hrecord)
  unfold opened
  rcases book_cases p.lane ⟨p.number, p.author, clock⟩ (s.withRegistry (·.record p)) with
    ⟨a, m, hcall, -, hm⟩ | ⟨place, m, hcall, -⟩
  · rw [hcall] at hanswer hstore ⊢
    have hkept : Echoes s { s.withRegistry (·.record p) with store := m } :=
      { hrecorded with books := hm }
    rcases a with e | (place | _)
    · exact hkept
    · exact absurd hanswer.symm (hbook place)
    · have hplace := hkept.labelPlace (p := p) hstatus fun honline => by
        rw [hkept.reports, hkept.books]
        refine (hlabel hanswer.symm).label fun hoffline => honline ?_
        exact (congrArg Memory.refusal? hstore).trans (hrefusal.trans hoffline)
      dsimp only
      rcases hop : Service.labelPlace p { s.withRegistry (·.record p) with store := m } with
        ⟨_ | _, u⟩
      all_goals
        rw [hop] at hplace
        exact hplace
  · rw [hcall] at hanswer
    exact absurd hanswer.symm (hbook place)

/-- A pull request is closed again that was closed already. -/
lemma echoes_closed (hstatus : s.clients.status = fun _ => none)
    (hunbook : ∀ b removal, (Desk.unbook p.lane p.number true s.store).answer ≠
      .ok (.removed b removal))
    (hgone : (Desk.unbook p.lane p.number true s.store).answer = .ok .notBooked →
      s.registry.get? p.key = none ∧
        lastReport p.statusUrl s.posted = some (closing.label.withTarget p.pageUrl)) :
    Echoes s (s.closed p closing).2 := by
  have hanswer : (s.unbook p.lane p.number true).1 =
    (Desk.unbook p.lane p.number true s.store).answer := rfl
  unfold closed
  rcases unbook_cases p.lane p.number true s with ⟨a, m, hcall, -, hm⟩ | ⟨b, removal, m, hcall, -⟩
  · rw [hcall] at hanswer ⊢
    have hkept : Echoes s { s with store := m } := { Echoes.refl s with books := hm }
    rcases a with e | (_ | _)
    · exact hkept
    · exact absurd hanswer.symm (hunbook _ _)
    · obtain ⟨hnone, hlast⟩ := hgone hanswer.symm
      have hposted := hkept.post hstatus p.lane hlast
      refine hposted.withRegistry (Registry.entries_forget ?_)
      obtain ⟨reports, failures, hwrites⟩ :=
        ({ s with store := m } : Service Memory).post_writes p.lane p closing.label
      rw [hwrites]
      exact hnone
  · rw [hcall] at hanswer
    exact absurd hanswer.symm (hunbook _ _)

/-! ## What a webhook leaves -/

/-- What a webhook tells is done by a call, or it is a status, or nothing is done. -/
lemma apply_cases (e : Webhook.Event) (clock : Time.Timestamp) (s : Service Memory) :
    (∃ c, (Webhook.apply e clock s).2 = (s.perform c).2) ∨
      (∃ change, (Webhook.apply e clock s).2 = (s.checkChanged change).2) ∨
      (Webhook.apply e clock s).2 = s := by
  rcases e with ⟨_ | _ | _ | closing, p⟩ | change | _
  · exact .inl ⟨.opened p clock, rfl⟩
  · exact .inl ⟨.opened p clock, rfl⟩
  · exact .inl ⟨.updated p, rfl⟩
  · exact .inl ⟨.closed p closing, rfl⟩
  · exact .inr (.inl ⟨change, rfl⟩)
  · exact .inr (.inr rfl)

/-- A webhook does not change the clients. -/
lemma clients_applied (e : Webhook.Event) (clock : Time.Timestamp) (s : Service Memory) :
    (s.applied e clock).clients = s.clients := by
  have hupheld : Upheld (fun _ => True) fun t : Service Memory =>
      t.rules = s.rules ∧ t.clients = s.clients := upheld_settings ..
  have happly : (Webhook.apply e clock s).2.rules = s.rules ∧
      (Webhook.apply e clock s).2.clients = s.clients := by
    rcases apply_cases e clock s with ⟨c, h⟩ | ⟨change, h⟩ | h <;> rw [h]
    · exact hupheld.perform ⟨rfl, rfl⟩ fun _ _ => trivial
    · exact hupheld.checkChanged ⟨rfl, rfl⟩ change
    · exact ⟨rfl, rfl⟩
  exact (hupheld.keptByTime.settle ⟨rfl, happly⟩).2.2

/-- When what a webhook tells has been done the service is quiet. -/
lemma quiet_applied (h : Tallied d s) (hnotice : s.clients.notice = fun _ => none)
    (e : Webhook.Event) (clock : Time.Timestamp) : Quiet (s.applied e clock) := by
  obtain ⟨d', hd'⟩ : ∃ d', Tallied d' (Webhook.apply e clock s).2 := by
    rcases apply_cases e clock s with ⟨c, h'⟩ | ⟨change, h'⟩ | h' <;> rw [h']
    · exact ⟨_, (h.beat (x := .call c) (by simp)).tallied⟩
    · exact ⟨_, (h.beat (x := .check change) (by simp)).tallied⟩
    · exact ⟨d, h⟩
  refine ⟨tasks_settle _, ?_, hd'.settle⟩
  rw [clients_applied]
  exact hnotice

/-- The label of the place that a pull request on record has is on its page when it has been set. -/
lemma labels_labelPlace (hstatus : s.clients.status = fun _ => none)
    (hrecord : s.registry.get? p.key = some p) :
    Labels p (s.labelPlace p).2 ∧ (s.labelPlace p).2.tasks = s.tasks := by
  unfold labelPlace
  rw [atDesk_position]
  split_ifs with hoffline
  · exact ⟨⟨hrecord, fun honline => absurd hoffline honline⟩, rfl⟩
  · have hposted := posted_post hstatus p.lane p (placeLabel (s.store.books.place p.lane p.number))
    dsimp only [label]
    rw [post_of_willing hstatus] at hposted ⊢
    refine ⟨⟨hrecord, fun _ => ?_⟩, rfl⟩
    rw [hposted, lastReport_append]
    exact if_pos rfl

/-- The task of a booking sets the label of a pull request on record. -/
lemma onAdded_eq_labelPlace (hrecord : s.registry.get? p.key = some p) :
    s.onAdded p.lane p.number = (s.labelPlace p).2 := by
  have hrecord' : s.registry.get? ⟨p.lane.repo, p.number⟩ = some p := hrecord
  unfold onAdded labelPlace
  rw [hrecord']
  dsimp only
  rcases s.atDesk (Desk.position p.lane p.number) with ⟨_ | place, u⟩ <;> rfl

/-- When the tasks of a booking have run, the page of a pull request on record shows its place. -/
lemma labels_settle_added {b : Booking} {place : Nat} (hstatus : s.clients.status = fun _ => none)
    (hrecord : s.registry.get? p.key = some p) (hb : b.number = p.number)
    (htasks : s.tasks = (handlers (.lane (.added p.lane b place))).map fun h =>
      ⟨h, .lane (.added p.lane b place)⟩) : Labels p s.settle := by
  have hsettled := labelled_settle htasks
  obtain ⟨rest, hposted⟩ := hsettled.posted
  have hlabels : Labels p (Service.onAdded p.lane p.number { s with tasks := rest }) := by
    rw [onAdded_eq_labelPlace (by exact hrecord)]
    exact (labels_labelPlace (by exact hstatus) (by exact hrecord)).1
  obtain ⟨reports, failures, hwrites⟩ :=
    onAdded_writes { s with tasks := rest } p.lane p.number
  rw [setLabels, hb] at hposted
  refine ⟨by rw [hsettled.registry]; exact hrecord, fun honline => ?_⟩
  rw [hposted, hsettled.store]
  have hlabel := hlabels.label
  rw [hwrites] at hlabel ⊢
  exact hlabel (hsettled.store ▸ honline)

/-- An opened pull request is on record, and unless the desk failed its page shows its place. -/
lemma opened_leaves (hidle : s.tasks = []) (hstatus : s.clients.status = fun _ => none) :
    (s.opened p clock).2.settle.registry.get? p.key = some p ∧
      ∀ o, (Desk.book p.lane ⟨p.number, p.author, clock⟩ s.store).answer = .ok o →
        Labels p (s.opened p clock).2.settle := by
  have hanswer : ((s.withRegistry (·.record p)).book p.lane ⟨p.number, p.author, clock⟩).1 =
    (Desk.book p.lane ⟨p.number, p.author, clock⟩ s.store).answer := rfl
  have hrecord : (s.withRegistry (·.record p)).registry.get? p.key = some p :=
    (Registry.get?_record ..).trans (if_pos rfl)
  -- Once there is a label, all that is said of the record is said of it.
  have hlabelled : ∀ {t : Service Memory}, Labels p t → t.registry.get? p.key = some p ∧
      ∀ o, (Desk.book p.lane ⟨p.number, p.author, clock⟩ s.store).answer = .ok o → Labels p t :=
    fun h => ⟨h.record, fun _ _ => h⟩
  unfold opened
  rcases book_cases p.lane ⟨p.number, p.author, clock⟩ (s.withRegistry (·.record p)) with
    ⟨a, m, hcall, hnot, -⟩ | ⟨place, m, hcall, -⟩
  · rw [hcall] at hanswer ⊢
    rcases a with e | (place | _)
    · rw [← hanswer]
      dsimp only
      rw [settle_of_idle (by exact hidle)]
      exact ⟨hrecord, nofun⟩
    · exact absurd rfl (hnot place)
    · obtain ⟨hlabels, htasks⟩ :=
        labels_labelPlace (s := { s.withRegistry (·.record p) with store := m }) hstatus hrecord
      dsimp only
      rcases hop : Service.labelPlace p { s.withRegistry (·.record p) with store := m } with
        ⟨_ | _, u⟩
      all_goals
        rw [hop] at hlabels htasks
        dsimp only at htasks ⊢
        rw [settle_of_idle (htasks.trans hidle)]
        exact hlabelled hlabels
  · rw [hcall]
    have htasks : (({ s.withRegistry (·.record p) with store := m } : Service Memory).publish
        (.lane (.added p.lane ⟨p.number, p.author, clock⟩ place))).tasks =
        (handlers (.lane (.added p.lane ⟨p.number, p.author, clock⟩ place))).map fun h =>
          ⟨h, .lane (.added p.lane ⟨p.number, p.author, clock⟩ place)⟩ := by
      simp [publish, withRegistry, hidle]
    exact hlabelled (labels_settle_added hstatus hrecord rfl htasks)

/-- When the tasks of a closing have run, the page of the pull request still has its last status,
since no other pull request has its page. -/
lemma lastReport_settle_removed {b : Booking} {removal : Removal} {r : StatusReport}
    (hstatus : s.clients.status = fun _ => none) (hreach : s.store.refusal? ≠ some Memory.offline)
    (hurl : ∀ key q, s.registry.get? key = some q → q.statusUrl ≠ p.statusUrl)
    (hlast : lastReport p.statusUrl s.posted = some r) (hclosed : removal.closed = true)
    (htasks : s.tasks = (handlers (.lane (.removed p.lane b removal))).map fun h =>
      ⟨h, .lane (.removed p.lane b removal)⟩) :
    lastReport p.statusUrl s.settle.posted = some r := by
  obtain ⟨rest, hposted⟩ := (labelled_settle htasks).posted
  rw [hposted, setLabels, hclosed, onRemoved_eq (by exact hreach), if_pos rfl]
  have hlabels : Posts (fun w => lastReport p.statusUrl w = some r) { s with tasks := rest }
      (Service.relabel p.lane { s with tasks := rest }).2 := by
    refine .relabel hstatus hlast fun i b q w _ hq hw => ?_
    rw [lastReport_append]
    exact (if_neg (hurl _ q hq).symm).trans hw
  exact hlabels.through.last

/-- A closed pull request is forgotten, and its page has its last status, unless the desk failed. -/
lemma closed_leaves (hidle : s.tasks = []) (hstatus : s.clients.status = fun _ => none)
    (hurl : ∀ key q, s.registry.get? key = some q → key ≠ p.key → q.statusUrl ≠ p.statusUrl)
    {o : UnbookOutcome} (h : (Desk.unbook p.lane p.number true s.store).answer = .ok o) :
    (s.closed p closing).2.settle.registry.get? p.key = none ∧
      lastReport p.statusUrl (s.closed p closing).2.settle.posted =
        some (closing.label.withTarget p.pageUrl) := by
  have hanswer : (s.unbook p.lane p.number true).1 =
    (Desk.unbook p.lane p.number true s.store).answer := rfl
  -- What holds once the pull request is dismissed, before any task has run.
  have hdismiss : ∀ u : Service Memory, u.clients = s.clients → u.registry = s.registry →
      (u.dismiss p closing).registry.get? p.key = none ∧
      (∀ key q, (u.dismiss p closing).registry.get? key = some q → q.statusUrl ≠ p.statusUrl) ∧
      lastReport p.statusUrl (u.dismiss p closing).posted =
        some (closing.label.withTarget p.pageUrl) := by
    intro u hclients hregistry
    have hposted : (u.dismiss p closing).posted =
        u.posted ++ [(p.statusTarget, closing.label.withTarget p.pageUrl)] :=
      posted_post (hclients ▸ hstatus) p.lane p closing.label
    rw [dismiss_registry, hregistry, hposted, lastReport_append]
    refine ⟨(Registry.get?_forget ..).trans (if_pos rfl), fun key q hq => ?_, if_pos rfl⟩
    rw [Registry.get?_forget] at hq
    split_ifs at hq with hkey
    exact hurl key q hq hkey
  unfold closed
  rcases unbook_cases p.lane p.number true s with
    ⟨a, m, hcall, hnot, -⟩ | ⟨b, removal, m, hcall, -, hclosed, -, hreach, -⟩
  · rw [hcall] at hanswer ⊢
    rw [← hanswer] at h
    subst h
    obtain ⟨hnone, -, hlast⟩ := hdismiss { s with store := m } rfl rfl
    have hidle' : (Service.dismiss p closing { s with store := m }).tasks = [] :=
      (dismiss_tasks ..).trans hidle
    rw [← settle_of_idle hidle'] at hnone hlast
    exact ⟨hnone, hlast⟩
  · rw [hcall]
    obtain ⟨hnone, hothers, hlast⟩ := hdismiss
      (({ s with store := m } : Service Memory).publish (.lane (.removed p.lane b removal))) rfl rfl
    have htasks : (Service.dismiss p closing (({ s with store := m } : Service Memory).publish
        (.lane (.removed p.lane b removal)))).tasks =
        (handlers (.lane (.removed p.lane b removal))).map fun h =>
          ⟨h, .lane (.removed p.lane b removal)⟩ := by
      rw [dismiss_tasks]
      simp [publish, hidle]
    have hsettled := labelled_settle htasks
    refine ⟨hsettled.registry ▸ hnone, lastReport_settle_removed ?_ ?_ hothers hlast hclosed htasks⟩
    · exact (congrArg Clients.status (dismiss_clients p closing _)).trans hstatus
    · have hrefusal := congrArg Memory.refusal? (dismiss_store p closing
        (({ s with store := m } : Service Memory).publish (.lane (.removed p.lane b removal))))
      intro hoffline
      cases hreach.symm.trans (hrefusal.symm.trans hoffline)

/-! ## Statuses that repeat -/

/-- What comes of a status that somebody posts depends on the rules, on the store and on the
records: nothing, or a result is published. -/
lemma exists_checkChanged_eq (honline : s.store.online = true) (change : CheckChange) :
    ∃ result : Option HeadChecks, ∀ t : Service Memory, t.rules = s.rules → t.store = s.store →
      t.registry = s.registry →
      (t.checkChanged change).2 = result.elim t fun c => t.publish (.checks c) := by
  have hhead : ∀ t : Service Memory, t.store = s.store → ∀ l,
      t.atDesk (Desk.head l) = (.ok (s.store.lanes l).head?, t) := by
    intro t hstore l
    rw [atDesk_head (hstore ▸ honline), hstore]
  by_cases hcontext : change.context = s.rules.context
  · refine ⟨none, fun t hrules _ _ => ?_⟩
    rw [checkChanged, hrules, if_pos hcontext]
    rfl
  · cases hp : s.registry.findByHead? change.repo change.commit with
    | none =>
      refine ⟨none, fun t hrules _ hregistry => ?_⟩
      rw [checkChanged, hrules, if_neg hcontext, hregistry, hp]
      rfl
    | some p =>
      refine ⟨(s.store.lanes p.lane).head?.bind fun b =>
        if b.number = p.number ∧ change.state.isFinal then
          some ⟨p.lane, b.number, b.username, change.commit, change.state⟩ else none, ?_⟩
      intro t hrules hstore hregistry
      rw [checkChanged, hrules, if_neg hcontext, hregistry, hp]
      simp only [hhead t hstore]
      cases (s.store.lanes p.lane).head? with
      | none => rfl
      | some b =>
        dsimp only [Option.bind]
        split_ifs <;> simp_all

/-- The service with one more event published, which nobody has to follow up. -/
def withEvent (e : Event) (s : Service Memory) : Service Memory :=
  { s with ledger := { s.ledger with events := s.ledger.events ++ [e] } }

/-- The task of a result of checks takes it. -/
lemma settle_publish_checks (hidle : s.tasks = []) (c : HeadChecks) :
    (s.publish (.checks c)).settle = (s.withEvent (.checks c)).onChecks c := by
  have htasks : (s.publish (.checks c)).tasks = [⟨.noticeChecks, .checks c⟩] := by
    simp [publish, hidle]
  obtain ⟨hrest, hsettle⟩ := settle_of_tasks htasks
  rw [hsettle, settle_of_idle hrest, runNext, htasks]
  refine congrArg (Service.onChecks c) ?_
  simp [publish, withEvent, hidle]

/-- A result that was taken just now is taken again. -/
lemma harmless_taken {v : Messenger} {c : HeadChecks} (h : Quiet s)
    (htaken : s.messenger = v.take s.now s.rules.debounce c) :
    Harmless s ((s.withEvent (.checks c)).onChecks c) := by
  obtain ⟨d, hd⟩ := h.tallied
  have hd' : Tallied d (s.withEvent (.checks c)) := hd.congr rfl rfl rfl rfl
  have hmessenger := hd'.messenger_onChecks h.willing c
  have hentered := hd'.enters_onChecks c
  obtain ⟨pending, delivered, nextGeneration, alarms, notices, failures, hwrites, -⟩ :=
    (s.withEvent (.checks c)).onChecks_writes c
  have hquiet : Quiet ((s.withEvent (.checks c)).onChecks c) := by
    refine ⟨?_, ?_, _, hentered.tallied⟩
    · rw [hwrites]
      exact h.idle
    · rw [hwrites]
      exact h.willing
  have hagain : (s.messenger.take s.now s.rules.debounce c) = s.messenger := by
    rw [htaken, Messenger.take_take]
  refine .of_messenger h hquiet ?_ ?_ ?_ ?_ (hmessenger.trans hagain) hentered.now
  · rw [hwrites]
    rfl
  · rw [hwrites]
    rfl
  · rw [hwrites]
    exact fun _ => rfl
  · rw [hwrites]
    refine (filterMap_change?_failed ..).trans ?_
    simp [withEvent, Event.change?]

/-- A status that is delivered twice publishes the same result, and that is taken twice. -/
lemma harmless_check (h : Tallied d s) (hidle : s.tasks = []) (honline : s.store.online = true)
    (hnotice : s.clients.notice = fun _ => none) (change : CheckChange)
    (clock clock' : Time.Timestamp) :
    Harmless (s.applied (.check change) clock)
      ((s.applied (.check change) clock).applied (.check change) clock') := by
  have hquiet := quiet_applied h hnotice (.check change) clock
  have happly : ∀ (u : Service Memory) clock,
    u.applied (.check change) clock = (u.checkChanged change).2.settle := fun _ _ => rfl
  obtain ⟨result, hcheck⟩ := exists_checkChanged_eq honline change
  simp only [happly, hcheck s rfl rfl rfl] at hquiet ⊢
  cases result with
  | none =>
    dsimp only [Option.elim] at hquiet ⊢
    rw [settle_of_idle hidle] at hquiet ⊢
    rw [hcheck s rfl rfl rfl, Option.elim, settle_of_idle hidle]
    exact (Echoes.refl s).harmless hquiet
  | some c =>
    obtain ⟨pending, delivered, nextGeneration, alarms, notices, failures, hwrites, -⟩ :=
      (s.withEvent (.checks c)).onChecks_writes c
    have hmessenger := (h.congr (t := s.withEvent (.checks c)) rfl rfl rfl rfl).messenger_onChecks
      hnotice c
    dsimp only [Option.elim] at hquiet ⊢
    rw [settle_publish_checks hidle] at hquiet ⊢
    -- Nothing that the second status depends on has changed.
    have hagain := hcheck ((s.withEvent (.checks c)).onChecks c) (by rw [hwrites]; rfl)
      (by rw [hwrites]; rfl) (by rw [hwrites]; rfl)
    rw [hagain, Option.elim, settle_publish_checks hquiet.idle]
    refine harmless_taken hquiet (v := s.messenger) ?_
    rw [hmessenger, hwrites]
    rfl

/-! ## Webhooks that repeat -/

/-- Once all has come to rest, nothing follows from a repetition. -/
lemma Echoes.harmless_settle (h : Echoes s t) (hs : Quiet s) : Harmless s t.settle := by
  rw [settle_of_idle (h.tasks.trans hs.idle)]
  exact h.harmless hs

section Calls

variable (h : Tallied d s) (hidle : s.tasks = []) (hstatus : s.clients.status = fun _ => none)
  (hnotice : s.clients.notice = fun _ => none)
include h hidle hstatus hnotice

/-- It may be told twice that a pull request was opened. -/
lemma harmless_opened (p : Pull) (clock clock' : Time.Timestamp) :
    Harmless (s.applied (.pull .opened p) clock)
      ((s.applied (.pull .opened p) clock).applied (.pull .opened p) clock') := by
  have hquiet := quiet_applied h hnotice (.pull .opened p) clock
  have hclients := clients_applied (.pull .opened p) clock s
  have hsettled : s.applied (.pull .opened p) clock = (s.opened p clock).2.settle := rfl
  obtain ⟨hrecord, hlabels⟩ := opened_leaves (p := p) hidle hstatus
  rw [← hsettled] at hrecord hlabels
  have hstore : (s.applied (.pull .opened p) clock).store =
      (Desk.book p.lane ⟨p.number, p.author, clock⟩ s.store).store :=
    (store_runTasks _ _).trans (store_perform (.opened p clock) s)
  have hrefusal : (s.applied (.pull .opened p) clock).store.refusal? = s.store.refusal? :=
    hstore ▸ (Desk.serve_frame (m := s.store) (.book p.lane ⟨p.number, p.author, clock⟩)).1
  have hagain := Desk.book_again (b := ⟨p.number, p.author, clock⟩)
    (c := ⟨p.number, p.author, clock'⟩) rfl rfl (congrArg Memory.books hstore) hrefusal
  refine Echoes.harmless_settle (echoes_opened (hclients ▸ hstatus) hrecord ?_ ?_) hquiet
  · intro place hplace
    rw [hagain] at hplace
    split at hplace <;> cases hplace
  · intro hduplicate
    rw [hagain] at hduplicate
    split at hduplicate
    · next o ho => exact hlabels o ho
    · cases hduplicate

/-- It may be told twice that a pull request has new commits. -/
lemma harmless_updated (p : Pull) (clock clock' : Time.Timestamp) :
    Harmless (s.applied (.pull .synchronized p) clock)
      ((s.applied (.pull .synchronized p) clock).applied (.pull .synchronized p) clock') := by
  have hquiet := quiet_applied h hnotice (.pull .synchronized p) clock
  have hclients := clients_applied (.pull .synchronized p) clock s
  obtain ⟨hlabels, htasks⟩ := labels_labelPlace (s := s.withRegistry (·.record p)) (p := p)
    hstatus ((Registry.get?_record ..).trans (if_pos rfl))
  have hsettled : s.applied (.pull .synchronized p) clock =
      ((s.withRegistry (·.record p)).labelPlace p).2 := settle_of_idle (htasks.trans hidle)
  rw [← hsettled] at hlabels
  exact (echoes_updated (hclients ▸ hstatus) hlabels).harmless_settle hquiet

/-- It may be told twice that a pull request was closed, unless the list of its lane holds it twice
and the store takes changes. -/
lemma harmless_closed_iff {closing : Closing} {p : Pull} (clock clock' : Time.Timestamp)
    (hurl : ∀ key q, s.registry.get? key = some q → key ≠ p.key → q.statusUrl ≠ p.statusUrl) :
    Harmless (s.applied (.pull (.closed closing) p) clock)
        ((s.applied (.pull (.closed closing) p) clock).applied (.pull (.closed closing) p) clock') ↔
      ¬ (s.store.refusal? = none ∧
        2 ≤ (s.store.books.list p.lane.storeKey).countP (·.number == p.number)) := by
  have hquiet := quiet_applied h hnotice (.pull (.closed closing) p) clock
  have hclients := clients_applied (.pull (.closed closing) p) clock s
  have hstored : ∀ (u : Service Memory) clock, (u.applied (.pull (.closed closing) p) clock).store =
      (Desk.unbook p.lane p.number true u.store).store :=
    fun u _ => (store_runTasks _ _).trans (store_perform (.closed p closing) u)
  have hstore := hstored s clock
  have hrefusal : (s.applied (.pull (.closed closing) p) clock).store.refusal? =
      s.store.refusal? :=
    hstore ▸ (Desk.serve_frame (m := s.store) (.unbook p.lane p.number true)).1
  constructor
  · rintro hharmless ⟨htakes, htwo⟩
    -- The second closing finds what the first has left.
    have hany : ∀ bs : List Booking, 1 ≤ bs.countP (·.number == p.number) →
        bs.any (·.number == p.number) = true := by
      intro bs hbs
      obtain ⟨b, hb, hn⟩ := List.countP_pos_iff.1 hbs
      exact List.any_eq_true.2 ⟨b, hb, hn⟩
    have hfirst := Desk.countP_unbook p.lane p.number true htakes (hany _ (by omega))
    rw [← hstore] at hfirst
    have hsecond := Desk.countP_unbook p.lane p.number true (hrefusal.trans htakes)
      (hany _ (by omega))
    rw [← hstored _ clock', hharmless.books] at hsecond
    omega
  · intro honce
    have hagain := Desk.unbook_again (congrArg Memory.books hstore) hrefusal honce
    refine Echoes.harmless_settle (echoes_closed (hclients ▸ hstatus) ?_ ?_) hquiet
    · intro b removal hremoved
      rw [hagain] at hremoved
      split at hremoved <;> cases hremoved
    · intro hnothing
      rw [hagain] at hnothing
      split at hnothing
      · next o ho => exact closed_leaves hidle hstatus hurl ho
      · cases hnothing

end Calls

/-- A webhook tells that a pull request was closed which the list of its lane holds twice, while the
store takes changes. -/
def ClosesOneOfTwo (e : Webhook.Event) (s : Service Memory) : Prop :=
  ∃ closing p, e = .pull (.closed closing) p ∧ s.store.refusal? = none ∧
    2 ≤ (s.store.books.list p.lane.storeKey).countP (·.number == p.number)

/-- A beat is about a repository without colons, if it is a call. From outside a store may come and
go and its file be changed, but what it holds in memory stays. -/
def Beat.Colonless : Beat Memory → Prop
  | .call c => c.lane.repo.Colonless
  | .outside f => ∀ m : Memory, (f m).shelves = m.shelves
  | _ => True

/-- Such beats keep lists and sets in step. -/
lemma inStep_afterBeats {beats : List (Beat Memory)} (hbeats : ∀ x ∈ beats, x.Colonless)
    (hs : s.store.books.InStep) : (s.afterBeats beats).store.books.InStep := by
  induction beats generalizing s with
  | nil => exact hs
  | cons x beats ih =>
    obtain ⟨hx, hrest⟩ := List.forall_mem_cons.1 hbeats
    have hstep : (s.beat x).store.books.InStep := by
      cases x with
      | call c =>
        rw [beat, store_perform]
        exact inStep_onStore (a := .call c) hx hs
      | check change => rwa [beat, store_checkChanged]
      | event e => exact hs
      | task i => rwa [beat, store_runAt]
      | alarm i => rwa [beat, store_ringAt]
      | tick =>
        rw [beat]
        split_ifs
        · exact hs
        · exact hs
      | outside f => exact inStep_onStore (a := .outside f) hx hs
    exact ih hrest hstep

/-- Where lists and sets are in step, no list holds a pull request twice. -/
lemma not_closesOneOfTwo {e : Webhook.Event} (hs : s.store.books.InStep)
    (he : ∀ r, e.repo? = some r → r.Colonless) : ¬ ClosesOneOfTwo e s := by
  rintro ⟨closing, p, rfl, -, htwo⟩
  have hnodup := hs.nodup p.lane (he p.repo rfl)
  have hcount := List.nodup_iff_count_le_one.1 hnodup p.number
  rw [List.count, List.countP_map] at hcount
  exact absurd htwo (Nat.not_le_of_lt (Nat.lt_succ_of_le hcount))

/-- Which webhooks may be delivered twice. Wherever the service has come by calls, statuses, tasks,
alarms and time, with no task left, a store that can be reached, reports and notices that arrive,
and no other pull request on record that has the page of the one that the webhook is about: what a
webhook tells, done once more, cannot be told from what was done once, except exactly if it tells
that a pull request was closed which the list of its lane holds twice, and the store takes the
change. If the calls and the webhook are about repositories without colons no list holds a pull
request twice, and it cannot be told at all.

**Proof sketch.** The first time leaves the pull request booked, or gone, and its page with a label
that says so; a result of checks is held back or was sent last. Then the second finds nothing to
change, and says the same again. -/
theorem redelivery_harmless_iff {rules : Rules} {m : Memory} {registry : Registry} {room : Nat}
    {clients : Clients} {beats : List (Beat Memory)} {s : Service Memory} {e : Webhook.Event}
    (clock clock' : Time.Timestamp)
    (hs : ({ start rules m registry room with clients } : Service Memory).afterBeats beats = s)
    (hidle : s.tasks = []) (honline : s.store.online = true)
    (hstatus : s.clients.status = fun _ => none) (hnotice : s.clients.notice = fun _ => none)
    (hurl : ∀ p, e.pull? = some p → ∀ key q, s.registry.get? key = some q → key ≠ p.key →
      q.statusUrl ≠ p.statusUrl) :
    (Harmless (s.applied e clock) ((s.applied e clock).applied e clock') ↔ ¬ ClosesOneOfTwo e s) ∧
    (m.shelves = Shelves.empty → (∀ x ∈ beats, x.Colonless) →
      (∀ r, e.repo? = some r → r.Colonless) →
      Harmless (s.applied e clock) ((s.applied e clock).applied e clock')) := by
  obtain ⟨d, hd⟩ := (tallied_start rules m registry room clients).afterBeats beats
  rw [hs] at hd
  have hiff : Harmless (s.applied e clock) ((s.applied e clock).applied e clock') ↔
      ¬ ClosesOneOfTwo e s := by
    rcases e with ⟨_ | _ | _ | closing, p⟩ | change | _
    case pull.closed =>
      rw [harmless_closed_iff hd hidle hstatus hnotice clock clock' (hurl p rfl)]
      refine not_congr ⟨fun htwo => ⟨closing, p, rfl, htwo⟩, ?_⟩
      rintro ⟨_, _, ⟨⟩, htwo⟩
      exact htwo
    all_goals refine iff_of_true ?_ nofun
    · exact harmless_opened hd hidle hstatus hnotice p clock clock'
    · exact harmless_opened hd hidle hstatus hnotice p clock clock'
    · exact harmless_updated hd hidle hstatus hnotice p clock clock'
    · exact harmless_check hd hidle honline hnotice change clock clock'
    · have hquiet := quiet_applied hd hnotice .ping clock
      exact (Echoes.refl _).harmless_settle hquiet
  refine ⟨hiff, fun hm hbeats he => hiff.2 (not_closesOneOfTwo ?_ he)⟩
  rw [← hs]
  refine inStep_afterBeats hbeats ?_
  have hempty : m.books.InStep := by
    rw [Memory.books, hm, Shelves.books_empty]
    exact Books.inStep_empty
  exact hempty

/-- A pull request is opened, and its tasks run. -/
def openedBeats : List (Beat Memory) :=
  .call (.opened (samplePull 1 "one") Time.Timestamp.epoch) :: List.replicate 4 (.task 0)

/-- That it was merged may be told twice. -/
theorem redelivery_harmless_merged :
    let s := fresh.afterBeats openedBeats
    let e := Webhook.Event.pull (.closed (.merged "mona")) (samplePull 1 "one")
    s.tasks = [] ∧ s.store.online = true ∧
      (Desk.bookings (samplePull 1 "one").lane s.store).answer.toOption.map List.length = some 1 ∧
      Harmless (s.applied e Time.Timestamp.epoch)
        ((s.applied e Time.Timestamp.epoch).applied e Time.Timestamp.epoch) := by
  intro s e
  have hregistry : s.registry = Registry.volatile.record (samplePull 1 "one") := rfl
  have hidle : s.tasks = [] := by decide +kernel
  have honline : s.store.online = true := by decide +kernel
  refine ⟨hidle, honline, by decide +kernel, ?_⟩
  refine (redelivery_harmless_iff Time.Timestamp.epoch Time.Timestamp.epoch
    (m := Memory.volatile) rfl hidle honline rfl rfl ?_).2 rfl ?_ ?_
  · rintro p ⟨⟩ key q hq hkey
    replace hq : s.registry.get? key = some q := hq
    rw [hregistry, Registry.get?_record, if_neg hkey, Registry.get?_of_entries_empty rfl] at hq
    cases hq
  · intro x hx
    rcases List.mem_cons.1 hx with rfl | hx
    · exact (by decide : (samplePull 1 "one").lane.repo.Colonless)
    · rw [List.eq_of_mem_replicate hx]
      trivial
  · rintro r ⟨⟩
    exact (by decide : (samplePull 1 "one").repo.Colonless)

/-- A pull request is booked under two names of one list, and the tasks run. -/
def doubledBeats : List (Beat Memory) :=
  .call (.book ⟨⟨"a", "b"⟩, "c:main"⟩ ⟨⟨7⟩, "mona", Time.Timestamp.epoch⟩) ::
    .call (.book ⟨⟨"a:b", "c"⟩, "main"⟩ ⟨⟨7⟩, "mona", Time.Timestamp.epoch⟩) ::
    List.replicate 8 (.task 0)

/-- When it is told twice that the pull request was closed, it is taken out twice. -/
theorem not_harmless_closing_twice :
    let s := fresh.afterBeats doubledBeats
    let p : Pull := { samplePull 7 "seven" with repo := ⟨"a:b", "c"⟩ }
    let e := Webhook.Event.pull (.closed .dropped) p
    s.tasks = [] ∧ s.store.online = true ∧ s.clients = Clients.willing ∧ s.registry.pulls = [] ∧
      ¬ Harmless (s.applied e Time.Timestamp.epoch)
        ((s.applied e Time.Timestamp.epoch).applied e Time.Timestamp.epoch) := by
  intro s p e
  refine ⟨by decide +kernel, by decide +kernel, rfl, by decide +kernel, fun h => ?_⟩
  have hchanges := h.changes
  revert hchanges
  decide +kernel

end Service

end MergeTurn
