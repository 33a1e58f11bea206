import MergeTurn.Proofs.Desk.Places
import MergeTurn.Proofs.Registry
import MergeTurn.Proofs.Service.Writes
import MergeTurn.Proofs.Store.Atomic
import MergeTurn.Service.Calls

set_option autoImplicit false

/-!
# What labels depend on

Whether a pull request shows the right label depends on the books, on what is on record, on the
changes that the label handlers have still to follow up, and on the report that was delivered last
to each page. The other handlers leave all of this alone.

## Main definitions

* `MergeTurn.Scene` — the books, the records, the changes to follow up and the last reports.
* `MergeTurn.Service.scene` — the scene of a service.
* `MergeTurn.Service.Ready` — no call to the store fails and no report is refused.
* `MergeTurn.Scene.Shows` — what setting the labels of a lane does to a scene.

## Main results

* `MergeTurn.Service.handle_alike` — the handlers that have nothing to do with labels.
* `MergeTurn.Service.Ready.onAdded`, `MergeTurn.Service.Ready.onRemoved` — the two that have.
-/

namespace MergeTurn

/-! ## Scenes -/

/-- The change of a lane that a task is to follow up with labels, if it is such a task. -/
def Task.labelChange? (t : Task) : Option LaneEvent :=
  match t.handler, t.event with
  | .labelAdded, .lane (.added l b place) => some (.added l b place)
  | .labelRemoved, .lane (.removed l b removal) => some (.removed l b removal)
  | _, _ => none

/-- The tasks that follow up a change with labels are those of two handlers. -/
lemma Task.of_labelChange? {task : Task} {e : LaneEvent}
    (h : task.labelChange? = some e) :
    (∃ l b place, e = .added l b place ∧ task = ⟨.labelAdded, .lane e⟩) ∨
      ∃ l b removal, e = .removed l b removal ∧ task = ⟨.labelRemoved, .lane e⟩ := by
  obtain ⟨handler, event⟩ := task
  cases handler <;> rcases event with (⟨l, b, place⟩ | ⟨l, b, removal⟩) | _ | _
  all_goals first
    | exact .inl ⟨l, b, place, (Option.some.inj h).symm, by rw [← Option.some.inj h]⟩
    | exact .inr ⟨l, b, removal, (Option.some.inj h).symm, by rw [← Option.some.inj h]⟩
    | cases h

/-- The report that was posted last to a page, if any was. -/
def lastReport (url : String) (reports : List (StatusTarget × StatusReport)) :
    Option StatusReport :=
  (reports.reverse.find? (·.1.statusUrl == url)).map (·.2)

/-- The last report to a page after one more was posted. -/
lemma lastReport_append (url : String) (reports : List (StatusTarget × StatusReport))
    (c : StatusTarget × StatusReport) :
    lastReport url (reports ++ [c]) =
      if url = c.1.statusUrl then some c.2 else lastReport url reports := by
  by_cases h : url = c.1.statusUrl
  · simp [lastReport, h]
  · simp [lastReport, h, Ne.symm h]

/-- All that labels depend on. -/
@[ext]
structure Scene where
  books : Books
  record : PullKey → Option Pull
  /-- The changes of lanes that are still to be followed up, in order. -/
  pending : List LaneEvent
  /-- The report that was delivered last to each page. -/
  told : String → Option StatusReport

namespace Scene

/-- The scene after a report was delivered. -/
def tell (url : String) (report : StatusReport) (v : Scene) : Scene :=
  { v with told := Function.update v.told url (some report) }

/-- The scene with a pull request on record. -/
def note (p : Pull) (v : Scene) : Scene :=
  { v with record := Function.update v.record p.key (some p) }

/-- The scene without a pull request on record. -/
def drop (key : PullKey) (v : Scene) : Scene :=
  { v with record := Function.update v.record key none }

/-- The scene after a change of the books that has still to be followed up. -/
def change (e : LaneEvent) (k : Books) (v : Scene) : Scene :=
  { v with books := k, pending := v.pending ++ [e] }

/-- What a page was told last, after a report was delivered. -/
lemma told_tell (url other : String) (report : StatusReport) (v : Scene) :
    (v.tell url report).told other = if other = url then some report else v.told other :=
  Function.update_apply ..

/-- What is on record after a pull request was. -/
lemma record_note (p : Pull) (key : PullKey) (v : Scene) :
    (v.note p).record key = if key = p.key then some p else v.record key :=
  Function.update_apply ..

/-- What is on record after a pull request was forgotten. -/
lemma record_drop (gone key : PullKey) (v : Scene) :
    (v.drop gone).record key = if key = gone then none else v.record key :=
  Function.update_apply ..

/-- What showing bookings that follow each other the places from one on does to a scene: each of
them that is on record is told its place, and no other page is told anything. -/
structure Shows (repo : Repo) (place : Nat) (bs : List Booking) (v w : Scene) : Prop where
  books : w.books = v.books
  record : w.record = v.record
  pending : w.pending = v.pending
  told : ∀ url,
    ((∀ b ∈ bs, ∀ p, v.record ⟨repo, b.number⟩ = some p → p.statusUrl ≠ url) ∧
      w.told url = v.told url) ∨
    ∃ i b p, bs[i]? = some b ∧ v.record ⟨repo, b.number⟩ = some p ∧ p.statusUrl = url ∧
      w.told url = some ((placeLabel (some (place + i))).withTarget p.pageUrl)

variable {repo : Repo} {place : Nat} {b : Booking} {bs : List Booking} {v w : Scene}

/-- A booking that is not on record is passed over. -/
lemma Shows.skip (h : Shows repo (place + 1) bs v w)
    (hb : v.record ⟨repo, b.number⟩ = none) : Shows repo place (b :: bs) v w := by
  refine ⟨h.books, h.record, h.pending, fun url => ?_⟩
  rcases h.told url with ⟨hne, e⟩ | ⟨i, c, p, hc, hp, hurl, e⟩
  · refine .inl ⟨List.forall_mem_cons.2 ⟨fun p hp => ?_, hne⟩, e⟩
    cases hb.symm.trans hp
  · exact .inr ⟨i + 1, c, p, hc, hp, hurl, by rw [e, show place + 1 + i = place + (i + 1) by omega]⟩

/-- A booking that is on record is told its place before the others are. -/
lemma Shows.cons {p : Pull} (hp : v.record ⟨repo, b.number⟩ = some p)
    (h : Shows repo (place + 1) bs
      (v.tell p.statusUrl ((placeLabel (some place)).withTarget p.pageUrl)) w) :
    Shows repo place (b :: bs) v w := by
  refine ⟨h.books, h.record, h.pending, fun url => ?_⟩
  rcases h.told url with ⟨hne, e⟩ | ⟨i, c, q, hc, hq, hurl, e⟩
  · rw [told_tell] at e
    split_ifs at e with hurl
    · exact .inr ⟨0, b, p, rfl, hp, hurl.symm, e⟩
    · refine .inl ⟨List.forall_mem_cons.2 ⟨fun q hq => ?_, hne⟩, e⟩
      cases hp.symm.trans hq
      exact Ne.symm hurl
  · exact .inr ⟨i + 1, c, q, hc, hq, hurl, by rw [e, show place + 1 + i = place + (i + 1) by omega]⟩

end Scene

namespace Service

variable {s t : Service Memory}

/-- All that the labels of a service depend on. -/
def scene (s : Service Memory) : Scene where
  books := s.store.books
  record key := s.registry.get? key
  pending := s.tasks.filterMap Task.labelChange?
  told url := lastReport url (delivered s.ledger.reports)

/-- No call to the store fails and no report is refused. -/
structure Ready (s : Service Memory) : Prop where
  serving : s.store.Serving
  willing : s.clients.status = fun _ => none

/-- Two states of the service differ in nothing that has to do with labels. -/
structure Alike (s t : Service Memory) : Prop where
  store : t.store = s.store
  registry : t.registry = s.registry
  clients : t.clients = s.clients
  tasks : t.tasks = s.tasks
  reports : t.ledger.reports = s.ledger.reports

/-- Every state is like itself. -/
lemma Alike.refl (s : Service Memory) : Alike s s := ⟨rfl, rfl, rfl, rfl, rfl⟩

/-- States that are alike have one scene. -/
lemma Alike.scene_eq (h : Alike s t) : t.scene = s.scene := by
  simp only [scene, h.store, h.registry, h.tasks, h.reports]

/-- A state that is like a ready one is ready. -/
lemma Alike.ready (h : Alike s t) (hs : s.Ready) : t.Ready :=
  ⟨h.store ▸ hs.serving, h.clients ▸ hs.willing⟩

/-! ## Handlers that have nothing to do with labels -/

namespace Alike

variable (h : Alike s t)
include h

/-- Telling a head that it is one does not touch labels. -/
lemma notifyHead (lane : Lane) (n : PullNumber) (username : String) :
    Alike s (t.notifyHead lane n username) := by
  by_cases htold : t.dispatch.heads[lane]? = some n
  · rwa [Service.notifyHead, if_pos htold]
  · obtain ⟨pending, alarms, error, events, hwrites⟩ := t.notifyHead_writes lane username htold
    rw [hwrites]
    exact ⟨h.store, h.registry, h.clients, h.tasks, h.reports⟩

/-- Forgetting the head of an empty lane does not touch labels. -/
lemma vacate (lane : Lane) : Alike s (t.vacate lane) := by
  obtain ⟨pending, alarms, hwrites⟩ := t.vacate_writes lane
  rw [hwrites]
  exact ⟨h.store, h.registry, h.clients, h.tasks, h.reports⟩

end Alike

/-- A store that serves answers what its shelves say. -/
lemma Ready.atDesk_read (h : s.Ready) {α β : Type} (f : α → β) (g : Shelves → α) :
    s.atDesk (fun m => .ask f (m.read g)) = (.ok (f (g s.store.shelves)), s) := by
  simp only [atDesk, Memory.read, h.serving.online]
  rfl

/-- Telling the new head of a lane does not touch labels. -/
lemma onChange_alike (e : LaneEvent) (s : Service Memory) : Alike s (s.onChange e) := by
  cases e with
  | added lane b place =>
    simp only [onChange]
    split
    · exact (Alike.refl s).notifyHead _ _ _
    · exact Alike.refl s
  | removed lane b removal =>
    obtain ⟨answer, hread⟩ : ∃ answer, s.atDesk (Desk.head lane) = (answer, s) :=
      atDesk_read _ _ s
    simp only [onChange, hread]
    split
    · rcases answer with e | (_ | b)
      · exact Alike.refl s
      · exact (Alike.refl s).vacate _
      · exact (Alike.refl s).notifyHead _ _ _
    · exact Alike.refl s

/-- Holding back a result of checks does not touch labels. -/
lemma onChecks_alike (c : HeadChecks) (s : Service Memory) : Alike s (s.onChecks c) := by
  obtain ⟨pending, delivered, nextGeneration, alarms, notices, events, hwrites, -⟩ :=
    s.onChecks_writes c
  rw [hwrites]
  exact ⟨rfl, rfl, rfl, rfl, rfl⟩

/-- Measuring a lane does not touch labels. -/
lemma measure_alike (e : LaneEvent) (s : Service Memory) : Alike s (s.measure e) := by
  obtain ⟨metrics, hwrites⟩ := s.measure_writes e
  rw [hwrites]
  exact ⟨rfl, rfl, rfl, rfl, rfl⟩

/-- Showing a lane does not touch labels. -/
lemma showLane_alike (lane : Lane) (s : Service Memory) : Alike s (s.showLane lane) := by
  obtain ⟨feed, snapshots, hwrites⟩ := s.showLane_writes lane
  rw [hwrites]
  exact ⟨rfl, rfl, rfl, rfl, rfl⟩

/-- A task that follows up no change with labels does not touch them. -/
lemma handle_alike {task : Task} (h : task.labelChange? = none) (s : Service Memory) :
    Alike s (s.handle task.handler task.event) := by
  obtain ⟨handler, e⟩ := task
  cases handler with
  | labelAdded => rcases e with (_ | _) | _ | _ <;> first | exact Alike.refl s | cases h
  | labelRemoved => rcases e with (_ | _) | _ | _ <;> first | exact Alike.refl s | cases h
  | noticeHead => cases e <;> first | exact onChange_alike _ s | exact Alike.refl s
  | noticeChecks => cases e <;> first | exact onChecks_alike _ s | exact Alike.refl s
  | measure => cases e <;> first | exact measure_alike _ s | exact Alike.refl s
  | watch => cases e <;> first | exact showLane_alike _ s | exact Alike.refl s

/-! ## Handlers that set labels -/

/-- A report that is not refused is entered in the ledger as delivered. -/
lemma post_of_willing (h : s.clients.status = fun _ => none) (lane : Lane) (p : Pull)
    (report : StatusReport) :
    s.post lane p report =
      (true, { s with
        ledger := { s.ledger with
          reports := s.ledger.reports ++
            [⟨(p.statusTarget, report.withTarget p.pageUrl), none⟩] } }) := by
  simp [Service.post, h]

/-- What is delivered after one more report was. -/
lemma delivered_append {α : Type} (attempts : List (Attempt α)) (call : α) :
    delivered (attempts ++ [⟨call, none⟩]) = delivered attempts ++ [call] := by
  simp [delivered]

/-- Posting a report keeps the service ready. -/
lemma Ready.post (h : s.Ready) (lane : Lane) (p : Pull) (report : StatusReport) :
    (s.post lane p report).2.Ready := by
  rw [post_of_willing h.willing]
  exact ⟨h.serving, h.willing⟩

/-- A report that is posted is what its page was told last. -/
lemma Ready.scene_post (h : s.Ready) (lane : Lane) (p : Pull) (report : StatusReport) :
    (s.post lane p report).2.scene =
      s.scene.tell p.statusUrl (report.withTarget p.pageUrl) := by
  rw [post_of_willing h.willing]
  ext1
  · rfl
  · rfl
  · rfl
  · funext url
    simp only [scene, Scene.tell, Function.update_apply, delivered_append, lastReport_append]
    rfl

/-- The place of a pull request as the store tells it. -/
lemma Ready.position (h : s.Ready) (lane : Lane) (n : PullNumber) :
    s.atDesk (Desk.position lane n) = (.ok (s.scene.books.place lane n), s) :=
  h.atDesk_read _ _

/-- Setting labels from a place on keeps the service ready and shows each booking its place. -/
lemma Ready.labelFrom (lane : Lane) (bs : List Booking) :
    ∀ {s : Service Memory} (place : Nat), s.Ready →
      (s.labelFrom lane place bs).2.Ready ∧
        Scene.Shows lane.repo place bs s.scene (s.labelFrom lane place bs).2.scene := by
  induction bs with
  | nil => exact fun place h => ⟨h, rfl, rfl, rfl, fun url => .inl ⟨by simp, rfl⟩⟩
  | cons b bs ih =>
    intro s place h
    have hrecord : s.scene.record ⟨lane.repo, b.number⟩ = s.registry.get? ⟨lane.repo, b.number⟩ :=
      rfl
    simp only [Service.labelFrom]
    cases hp : s.registry.get? ⟨lane.repo, b.number⟩ with
    | none =>
      obtain ⟨hready, hshows⟩ := ih (place + 1) h
      exact ⟨hready, hshows.skip (hrecord.trans hp)⟩
    | some p =>
      obtain ⟨hready, hshows⟩ := ih (place + 1) (h.post lane p (placeLabel (some place)))
      rw [h.scene_post] at hshows
      exact ⟨hready, hshows.cons (hrecord.trans hp)⟩

/-- Setting the labels of a lane keeps the service ready and shows the first bookings of the lane
their places. -/
lemma Ready.relabel (h : s.Ready) (lane : Lane) :
    ∃ count, (s.relabel lane).1 = .ok count ∧ (s.relabel lane).2.Ready ∧
      Scene.Shows lane.repo 0 ((s.scene.books.list lane.storeKey).take (lastShownPlace + 1))
        s.scene (s.relabel lane).2.scene := by
  have hread : s.atDesk (Desk.firstBookings lane (lastShownPlace + 1)) =
      (.ok ((s.scene.books.list lane.storeKey).take (lastShownPlace + 1)), s) :=
    h.atDesk_read _ _
  obtain ⟨hready, hshows⟩ :=
    Ready.labelFrom lane ((s.scene.books.list lane.storeKey).take (lastShownPlace + 1)) 0 h
  simp only [Service.relabel, hread]
  exact ⟨_, rfl, hready, hshows⟩

/-- Following up a booking tells the pull request the place that it has by now. -/
lemma Ready.onAdded (h : s.Ready) (lane : Lane) (n : PullNumber) :
    (s.onAdded lane n).Ready ∧ (s.onAdded lane n).scene =
      match s.scene.record ⟨lane.repo, n⟩ with
      | none => s.scene
      | some p => s.scene.tell p.statusUrl
          ((placeLabel (s.scene.books.place lane n)).withTarget p.pageUrl) := by
  have hrecord : s.scene.record ⟨lane.repo, n⟩ = s.registry.get? ⟨lane.repo, n⟩ := rfl
  rw [hrecord]
  simp only [Service.onAdded]
  cases s.registry.get? ⟨lane.repo, n⟩ with
  | none => exact ⟨h, rfl⟩
  | some p =>
    simp only [h.position]
    exact ⟨h.post _ _ _, h.scene_post _ _ _⟩

/-- Following up a removal shows the first bookings of the lane their places, and then tells the
pull request that it has none, unless it was closed. -/
lemma Ready.onRemoved (h : s.Ready) (lane : Lane) (n : PullNumber) (closed : Bool) :
    (s.onRemoved lane n closed).Ready ∧ ∃ w,
      Scene.Shows lane.repo 0 ((s.scene.books.list lane.storeKey).take (lastShownPlace + 1))
        s.scene w ∧
      (s.onRemoved lane n closed).scene =
        if closed then w
        else match w.record ⟨lane.repo, n⟩ with
          | none => w
          | some p => w.tell p.statusUrl ((placeLabel none).withTarget p.pageUrl) := by
  obtain ⟨count, hanswer, hready, hshows⟩ := h.relabel lane
  rcases hop : s.relabel lane with ⟨answer, t⟩
  rw [hop] at hanswer hready hshows
  cases hanswer
  have hrecord : t.scene.record ⟨lane.repo, n⟩ = t.registry.get? ⟨lane.repo, n⟩ := rfl
  simp only [Service.onRemoved, hop]
  cases closed with
  | true => exact ⟨hready, _, hshows, rfl⟩
  | false =>
    cases hp : t.registry.get? ⟨lane.repo, n⟩ with
    | none => exact ⟨hready, _, hshows, by simp [hrecord, hp]⟩
    | some p =>
      refine ⟨hready.post _ _ _, _, hshows, ?_⟩
      simpa [hrecord, hp, label] using hready.scene_post _ _ _

end Service

end MergeTurn
