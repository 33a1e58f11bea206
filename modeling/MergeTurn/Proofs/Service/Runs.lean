import MergeTurn.Proofs.Service.Repairs

set_option autoImplicit false

/-!
# Runs of the service

A run is any order of calls and tasks. Tasks run in the order in which they came about, but there
may be any number of calls before each of them. When no task is left, every pull request on record
shows the label of the place that it has.

## Main definitions

* `MergeTurn.Service.Call` — what webhooks and people ask for.
* `MergeTurn.Service.Coherent` — calls about one pull request name one lane, and no two pull
  requests share a page.
* `MergeTurn.Service.run?` — a run in which every call succeeds.

## Main results

* `MergeTurn.Service.Kept.perform`, `MergeTurn.Service.Kept.runNext` — a call and a task keep all
  labels right or to be repaired.
* `MergeTurn.Service.labels_settle` — when no task is left all labels are right.
-/

namespace MergeTurn.Service

/-! ## Calls and runs -/

/-- What webhooks and people ask of the service. Who is unbooked by hand stays open. -/
inductive Call where
  | opened (p : Pull) (clock : Time.Timestamp)
  | updated (p : Pull)
  | closed (p : Pull) (closing : Closing)
  | book (lane : Lane) (b : Booking)
  | unbook (lane : Lane) (n : PullNumber)

namespace Call

/-- The pull request that a call is about. -/
def key : Call → PullKey
  | .opened p _ => p.key
  | .updated p => p.key
  | .closed p _ => p.key
  | .book lane b => ⟨lane.repo, b.number⟩
  | .unbook lane n => ⟨lane.repo, n⟩

/-- The lane that a call names. -/
def lane : Call → Lane
  | .opened p _ => p.lane
  | .updated p => p.lane
  | .closed p _ => p.lane
  | .book lane _ => lane
  | .unbook lane _ => lane

/-- What a call says about the pull request, if it comes from a webhook. -/
def pull? : Call → Option Pull
  | .opened p _ => some p
  | .updated p => some p
  | .closed p _ => some p
  | .book .. => none
  | .unbook .. => none

end Call

/-- The service after a call, if the call succeeded. -/
def after? {α : Type} : Except DeskError α × Service Memory → Option (Service Memory)
  | (.ok _, s) => some s
  | (.error _, _) => none

/-- The service after a call, if it succeeds. -/
def perform? : Call → Service Memory → Option (Service Memory)
  | .opened p clock, s => after? (s.opened p clock)
  | .updated p, s => after? (s.updated p)
  | .closed p closing, s => after? (s.closed p closing)
  | .book lane b, s => after? (s.book lane b)
  | .unbook lane n, s => after? (s.unbook lane n false)

/-- A move of a run: a call, or the next task. -/
inductive Move where
  | call (c : Call)
  | task

/-- The call of a move, if it is one. -/
def Move.call? : Move → Option Call
  | .call c => some c
  | .task => none

/-- The service after a move, if no call fails. -/
def move? : Move → Service Memory → Option (Service Memory)
  | .call c, s => perform? c s
  | .task, s => some s.runNext

/-- The service after a run, if no call fails. -/
def run? (moves : List Move) (s : Service Memory) : Option (Service Memory) :=
  moves.foldlM (fun s m => move? m s) s

/-- Calls fit together: those about one pull request name one lane, no two pull requests share a
page, and the names of repositories hold no colons. -/
structure Coherent (calls : List Call) : Prop where
  colonless : ∀ c ∈ calls, c.lane.repo.Colonless
  one_lane : ∀ c ∈ calls, ∀ d ∈ calls, c.key = d.key → c.lane = d.lane
  one_page : ∀ p ∈ calls.filterMap Call.pull?, ∀ q ∈ calls.filterMap Call.pull?,
    p.statusUrl = q.statusUrl → p.key = q.key

/-! ## The charter of a run -/

/-- The lane that a call names is in the repository of its pull request. -/
lemma Call.lane_repo (c : Call) : c.lane.repo = c.key.repo := by
  cases c <;> rfl

/-- The lanes and pages that calls name. -/
def charter (calls : List Call) : Charter where
  home key := ((calls.find? (·.key == key)).map Call.lane).getD (key.repo.lane "")
  owner url := (((calls.filterMap Call.pull?).find? (·.statusUrl == url)).map Pull.key).getD
    ⟨⟨"", ""⟩, ⟨0⟩⟩
  home_repo key := by
    cases h : calls.find? (·.key == key) with
    | none => rfl
    | some c =>
      have hkey : c.key = key := by simpa using List.find?_some h
      exact c.lane_repo.trans (congrArg PullKey.repo hkey)

/-- A call is about a pull request in its own lane, with a page of its own. -/
structure Fits (C : Charter) (c : Call) : Prop where
  lane : c.lane = C.home c.key
  page : ∀ p, c.pull? = some p → C.owner p.statusUrl = p.key
  colonless : c.lane.repo.Colonless

/-- Every one of some calls that fit together fits their charter. -/
lemma Coherent.fits {calls : List Call} (h : Coherent calls) {c : Call} (hc : c ∈ calls) :
    Fits (charter calls) c where
  lane := by
    cases hd : calls.find? (·.key == c.key) with
    | none => simpa using List.find?_eq_none.1 hd c hc
    | some d =>
      have hkey : d.key = c.key := by simpa using List.find?_some hd
      simp only [charter, hd]
      exact h.one_lane c hc d (List.mem_of_find?_eq_some hd) hkey.symm
  page p hp := by
    have hmem : p ∈ calls.filterMap Call.pull? := List.mem_filterMap.2 ⟨c, hc, hp⟩
    cases hq : (calls.filterMap Call.pull?).find? (·.statusUrl == p.statusUrl) with
    | none => simpa using List.find?_eq_none.1 hq p hmem
    | some q =>
      have hurl : q.statusUrl = p.statusUrl := by simpa using List.find?_some hq
      simp only [charter, hq]
      exact h.one_page q (List.mem_of_find?_eq_some hq) p hmem hurl
  colonless := h.colonless c hc

/-! ## What calls and tasks do to the scene -/

variable {s t : Service Memory}

/-- A change that is published is to be followed up. -/
lemma scene_publish (e : LaneEvent) (s : Service Memory) :
    (s.publish (.lane e)).scene = s.scene.change e s.store.books := by
  cases e <;> simp [scene, publish, Scene.change, Task.labelChange?]

/-- A store that serves takes a booking, or finds it to be a duplicate. -/
lemma Ready.book (h : s.Ready) {lane : Lane} {b : Booking} {o : BookOutcome}
    (hop : s.book lane b = (.ok o, t)) :
    t.Ready ∧ (o = .duplicate ∧ t.scene = s.scene ∨
      ∃ place, o = .added place ∧ s.scene.books.member lane.repo.storeKey b.number = false ∧
        t.scene = s.scene.change (.added lane b place)
          ((s.scene.books.addMember lane.repo.storeKey b.number).append lane.storeKey b)) := by
  have ho : (Desk.book lane b s.store).answer = .ok o := congrArg Prod.fst hop
  simp only [Service.book, atDesk] at hop
  obtain ⟨m, hm, ⟨-, hb, hturn⟩ | ⟨hnew, hb, hturn⟩⟩ :=
    Desk.book_of_ok (A := Memory.atomic Memory.keeps_serving) h.serving ho
  · rw [hturn] at hop
    cases hop
    exact ⟨⟨hm, h.willing⟩, .inl ⟨rfl, Scene.ext hb rfl rfl rfl⟩⟩
  · rw [hturn] at hop
    cases hop
    refine ⟨⟨hm, h.willing⟩, .inr ⟨_, rfl, hnew, ?_⟩⟩
    exact (scene_publish _ _).trans (Scene.ext hb rfl rfl rfl)

/-- A store that serves takes a removal, or finds nothing to remove. -/
lemma Ready.unbook (h : s.Ready) {lane : Lane} {n : PullNumber} {closed : Bool}
    {o : UnbookOutcome} (hop : s.unbook lane n closed = (.ok o, t)) :
    t.Ready ∧ (¬ s.scene.books.Lists lane.storeKey n ∧ t.scene = s.scene ∨
      ∃ b removal, b.number = n ∧ removal.closed = closed ∧
        s.scene.books.Lists lane.storeKey n ∧
        t.scene = s.scene.change (.removed lane b removal)
          ((s.scene.books.removeFirst lane.storeKey n).removeMember lane.repo.storeKey n)) := by
  have ho : (Desk.unbook lane n closed s.store).answer = .ok o := congrArg Prod.fst hop
  simp only [Service.unbook, atDesk] at hop
  obtain ⟨m, hm, ⟨hn, hb, hturn⟩ | ⟨b, removal, hfound, hremoval, hb, hturn⟩⟩ :=
    Desk.unbook_of_ok (A := Memory.atomic Memory.keeps_serving) h.serving ho
  · rw [hturn] at hop
    cases hop
    exact ⟨⟨hm, h.willing⟩, .inl ⟨hn, Scene.ext hb rfl rfl rfl⟩⟩
  · rw [hturn] at hop
    cases hop
    refine ⟨⟨hm, h.willing⟩, .inr ⟨b, removal, number_of_find? hfound,
      congrArg Removal.closed hremoval, Books.lists_of_find? hfound, ?_⟩⟩
    exact (scene_publish _ _).trans (Scene.ext hb rfl rfl rfl)

/-- The scene with a pull request on record. -/
lemma scene_record (p : Pull) (s : Service Memory) :
    (s.withRegistry (·.record p)).scene = s.scene.note p := by
  ext1
  · rfl
  · funext key
    rw [Scene.record_note]
    exact Registry.get?_record ..
  · rfl
  · rfl

/-- The scene without a pull request on record. -/
lemma scene_forget (key : PullKey) (s : Service Memory) :
    (s.withRegistry (·.forget key)).scene = s.scene.drop key := by
  ext1
  · rfl
  · funext other
    rw [Scene.record_drop]
    exact Registry.get?_forget ..
  · rfl
  · rfl

/-- A pull request whose place is looked up is told it. -/
lemma Ready.labelPlace (h : s.Ready) (p : Pull) :
    ∃ place, (s.labelPlace p).1 = .ok place ∧ (s.labelPlace p).2.Ready ∧
      (s.labelPlace p).2.scene = s.scene.tell p.statusUrl
        ((placeLabel (s.scene.books.place p.lane p.number)).withTarget p.pageUrl) := by
  simp only [Service.labelPlace, h.position]
  exact ⟨_, rfl, h.post _ _ _, h.scene_post _ _ _⟩

/-! ## Runs -/

/-- The service is ready, and all labels are right or will be repaired. -/
structure Kept (C : Charter) (s : Service Memory) : Prop where
  ready : s.Ready
  tended : s.scene.Tended C

variable {C : Charter}

/-- The service is still ready when a pull request was recorded or forgotten. -/
lemma Ready.withRegistry (h : s.Ready) (f : Registry → Registry) : (s.withRegistry f).Ready :=
  ⟨h.serving, h.willing⟩

namespace Kept

variable (h : Kept C s)
include h

/-- A pull request that was recorded and is told its place shows the right label. -/
lemma labelPlace {u : Service Memory} (hu : u.Ready) {p : Pull}
    (hscene : u.scene = s.scene.note p) (hlane : p.lane = C.home p.key)
    (howner : C.owner p.statusUrl = p.key) (hc : p.lane.repo.Colonless) :
    ∃ place, (u.labelPlace p).1 = .ok place ∧ Kept C (u.labelPlace p).2 := by
  obtain ⟨place, hanswer, hready, htold⟩ := hu.labelPlace p
  refine ⟨place, hanswer, hready, ?_⟩
  have hplace : s.scene.place C p.key = u.scene.books.place p.lane p.number := by
    rw [Scene.place, ← hlane, hscene]
    rfl
  rw [htold, ← hplace, hscene]
  exact h.tended.note_tell hlane howner hc

/-- A booking by hand keeps all labels right or to be repaired. -/
lemma book {lane : Lane} {b : Booking} (hfits : Fits C (.book lane b)) {o : BookOutcome}
    (hop : s.book lane b = (.ok o, t)) : Kept C t := by
  obtain ⟨hready, ⟨-, hscene⟩ | ⟨place, -, hm, hscene⟩⟩ := h.ready.book hop
  · exact ⟨hready, hscene ▸ h.tended⟩
  · refine ⟨hready, hscene ▸ ?_⟩
    exact h.tended.toSound.book hfits.colonless hfits.lane hm (fun key hkey _ =>
      h.tended.right key hkey) place

/-- A removal by hand keeps all labels right or to be repaired. -/
lemma unbook {lane : Lane} {n : PullNumber} (hfits : Fits C (.unbook lane n)) {o : UnbookOutcome}
    (hop : s.unbook lane n false = (.ok o, t)) : Kept C t := by
  obtain ⟨hready, ⟨-, hscene⟩ | ⟨b, removal, rfl, hopen, hlists, hscene⟩⟩ := h.ready.unbook hop
  · exact ⟨hready, hscene ▸ h.tended⟩
  · exact ⟨hready, hscene ▸ h.tended.unbook_open hfits.colonless hlists hopen⟩

/-- Opening a pull request keeps all labels right or to be repaired. -/
lemma opened {p : Pull} {clock : Time.Timestamp} (hfits : Fits C (.opened p clock))
    {o : BookOutcome} (hop : s.opened p clock = (.ok o, t)) : Kept C t := by
  have hlane : p.lane = C.home p.key := hfits.lane
  have hc : p.lane.repo.Colonless := hfits.colonless
  have howner := hfits.page p rfl
  have hready := h.ready.withRegistry (·.record p)
  have hnoted := scene_record p s
  simp only [Service.opened] at hop
  rcases hbook : (s.withRegistry (·.record p)).book p.lane ⟨p.number, p.author, clock⟩ with
    ⟨_ | (place | _), u⟩
  all_goals rw [hbook] at hop
  · cases hop
  · cases hop
    obtain ⟨hready', ⟨hdup, -⟩ | ⟨place', -, hm, hscene⟩⟩ := hready.book hbook
    · cases hdup
    · refine ⟨hready', ?_⟩
      rw [hscene, hnoted]
      rw [hnoted] at hm
      exact Scene.Sound.book (b := ⟨p.number, p.author, clock⟩)
        (h.tended.toSound.note hlane howner hc) hc hlane hm
        (fun key hkey hne => (h.tended.right key hkey).note_of_ne hne) place'
  · obtain ⟨hready', ⟨-, hscene⟩ | ⟨place', hadded, -⟩⟩ := hready.book hbook
    · obtain ⟨place, hanswer, hkept⟩ :=
        h.labelPlace hready' (hscene.trans hnoted) hlane howner hc
      rcases hlabel : u.labelPlace p with ⟨answer, u'⟩
      rw [hlabel] at hanswer hkept
      cases hanswer
      simp only [hlabel] at hop
      cases hop
      exact hkept
    · cases hadded

/-- New commits of a pull request keep all labels right or to be repaired. -/
lemma updated {p : Pull} (hfits : Fits C (.updated p)) {place : Option Nat}
    (hop : s.updated p = (.ok place, t)) : Kept C t := by
  obtain ⟨-, -, hkept⟩ := h.labelPlace (h.ready.withRegistry (·.record p)) (scene_record p s)
    hfits.lane (hfits.page p rfl) hfits.colonless
  rw [Service.updated] at hop
  rw [hop] at hkept
  exact hkept

/-- Closing a pull request keeps all labels right or to be repaired. -/
lemma closed {p : Pull} {closing : Closing} (hfits : Fits C (.closed p closing))
    {o : UnbookOutcome} (hop : s.closed p closing = (.ok o, t)) : Kept C t := by
  have hlane : p.lane = C.home p.key := hfits.lane
  have hc : p.lane.repo.Colonless := hfits.colonless
  simp only [Service.closed] at hop
  rcases hun : s.unbook p.lane p.number true with ⟨_ | o', u⟩
  all_goals rw [hun] at hop
  · cases hop
  · cases hop
    obtain ⟨hready, hleft⟩ := h.ready.unbook hun
    refine ⟨(hready.post _ _ _).withRegistry _, ?_⟩
    rw [scene_forget, hready.scene_post]
    rcases hleft with ⟨hnot, hscene⟩ | ⟨b, removal, hb, -, hlists, hscene⟩
    · rw [hscene]
      refine h.tended.toSound.tell_drop ?_ (fun key hkey _ => h.tended.right key hkey)
        (hfits.page p rfl) _
      rw [Scene.place, ← hlane]
      exact Books.place_eq_none_iff.2 hnot
    · rw [← hb] at hlists hscene
      obtain ⟨hsound, hnone, hothers⟩ := h.tended.unbook hc hlists removal
      have hkey : (⟨p.lane.repo, b.number⟩ : PullKey) = p.key := by rw [hb]; rfl
      rw [hkey] at hnone hothers
      rw [hscene]
      exact hsound.tell_drop hnone hothers (hfits.page p rfl) _

/-- A call that fits and succeeds keeps all labels right or to be repaired. -/
theorem perform {c : Call} (hfits : Fits C c) (hop : perform? c s = some t) : Kept C t := by
  have hok : ∀ {α : Type} {r : Except DeskError α × Service Memory}, after? r = some t →
      ∃ a, r = (.ok a, t) := by
    rintro α ⟨_ | a, u⟩ hr
    · cases hr
    · exact ⟨a, by rw [Option.some.inj hr]⟩
  cases c with
  | opened p clock => exact (hok hop).elim fun _ => h.opened hfits
  | updated p => exact (hok hop).elim fun _ => h.updated hfits
  | closed p closing => exact (hok hop).elim fun _ => h.closed hfits
  | book lane b => exact (hok hop).elim fun _ => h.book hfits
  | unbook lane n => exact (hok hop).elim fun _ => h.unbook hfits

/-- A task keeps all labels right or to be repaired.

**Proof sketch.** Only two kinds of tasks touch labels, and what is pending is the changes that
those have still to follow up. -/
theorem runNext : Kept C s.runNext := by
  unfold Service.runNext
  cases htasks : s.tasks with
  | nil => exact h
  | cons task rest =>
    have hpending : s.scene.pending =
        (task :: rest).filterMap Task.labelChange? := by rw [← htasks]; rfl
    have hready : ({ s with tasks := rest } : Service Memory).Ready :=
      ⟨h.ready.serving, h.ready.willing⟩
    have hdue : ({ s with tasks := rest } : Service Memory).scene =
        s.scene.due (rest.filterMap Task.labelChange?) := rfl
    cases hchange : task.labelChange? with
    | none =>
      rw [List.filterMap_cons_none hchange] at hpending
      have halike := handle_alike hchange { s with tasks := rest }
      refine ⟨halike.ready hready, ?_⟩
      rw [halike.scene_eq, hdue, ← hpending]
      exact h.tended
    | some e =>
      rw [List.filterMap_cons_some hchange] at hpending
      rcases Task.of_labelChange? hchange with ⟨l, b, place, rfl, rfl⟩ | ⟨l, b, removal, rfl, rfl⟩
      · obtain ⟨hready', hscene⟩ := hready.onAdded l b.number
        refine ⟨hready', ?_⟩
        show Scene.Tended C (Service.onAdded l b.number { s with tasks := rest }).scene
        rw [hscene, hdue]
        exact h.tended.followAdded hpending
      · obtain ⟨hready', w, hshows, hscene⟩ := hready.onRemoved l b.number removal.closed
        refine ⟨hready', ?_⟩
        show Scene.Tended C
          (Service.onRemoved l b.number removal.closed { s with tasks := rest }).scene
        rw [hscene]
        exact h.tended.followRemoved hpending (hdue ▸ hshows)

/-- A run of calls that fit and succeed keeps all labels right or to be repaired. -/
theorem run {moves : List Move} (hfits : ∀ c ∈ moves.filterMap Move.call?, Fits C c)
    (hrun : run? moves s = some t) : Kept C t := by
  induction moves generalizing s with
  | nil =>
    obtain rfl : s = t := by simpa [run?] using hrun
    exact h
  | cons move moves ih =>
    rw [run?, List.foldlM_cons] at hrun
    obtain ⟨u, hu, hrest⟩ := Option.bind_eq_some_iff.1 hrun
    cases move with
    | call c =>
      have hfits' : Fits C c ∧ ∀ d ∈ moves.filterMap Move.call?, Fits C d := by
        simpa [Move.call?] using hfits
      exact ih (h.perform hfits'.1 hu) hfits'.2 hrest
    | task =>
      obtain rfl : s.runNext = u := Option.some.inj hu
      exact ih h.runNext (by simpa [Move.call?] using hfits) hrest

end Kept

/-- A service that has just been started over an empty store is ready, and nothing is to be
done. -/
lemma kept_start (C : Charter) (rules : Rules) {m : Memory} {registry : Registry} (room : Nat)
    {clients : Clients} (hm : m.shelves = Shelves.empty) (hserving : m.Serving)
    (hregistry : registry.entries = ∅) (hclients : clients.status = fun _ => none) :
    Kept C { start rules m registry room with clients } where
  ready := ⟨hserving, hclients⟩
  tended := by
    refine Scene.tended_of_empty ?_ (Registry.get?_of_entries_empty hregistry) rfl
    exact (congrArg Shelves.books hm).trans Shelves.books_empty

/-- When no task is left, all labels are right. After any run of calls that fit together, with the
tasks delayed past any number of calls, a pull request on record is in no lane but its own. If it
has a place there, the last report on its page reads as the label of this place. If it has none,
the last report on its page does not say that it may be merged. -/
theorem labels_settle {rules : Rules} {m : Memory} {registry : Registry} {room : Nat}
    {clients : Clients} {moves : List Move} (hm : m.shelves = Shelves.empty)
    (hserving : m.Serving) (hregistry : registry.entries = ∅)
    (hclients : clients.status = fun _ => none)
    (hcalls : Coherent (moves.filterMap Move.call?))
    (hrun : run? moves { start rules m registry room with clients } = some s)
    (hidle : s.tasks = []) {key : PullKey} {p : Pull} (hp : s.registry.get? key = some p) :
    p.key = key ∧
    (∀ branch, branch ≠ p.branch →
      (Desk.position (p.repo.lane branch) p.number s.store).answer = .ok none) ∧
    ∃ place, (Desk.position p.lane p.number s.store).answer = .ok place ∧
      match place with
      | some i => ∃ r, lastReport p.statusUrl (delivered s.ledger.reports) = some r ∧
          r.Reads (placeLabel (some i))
      | none => ∀ r, lastReport p.statusUrl (delivered s.ledger.reports) = some r →
          ¬ r.Reads (placeLabel (some 0)) := by
  obtain ⟨hready, htended⟩ := (kept_start (charter (moves.filterMap Move.call?)) rules room hm
    hserving hregistry hclients).run (fun c hc => hcalls.fits hc) hrun
  obtain ⟨rfl, hlane, -, hc⟩ := htended.record key p hp
  have hposition : ∀ lane : Lane,
      (Desk.position lane p.number s.store).answer = .ok (s.scene.books.place lane p.number) :=
    fun lane => congrArg Prod.fst (hready.position lane p.number)
  have hpending : s.scene.pending = [] := by
    simp [scene, hidle]
  refine ⟨rfl, fun branch hb => ?_, _, hposition p.lane, ?_⟩
  · rw [hposition, Books.place_eq_none_iff.2]
    intro hlists
    have hhome := htended.lists (p.repo.lane branch) hc p.number hlists
    exact hb (congrArg Lane.branch (hhome.trans hlane.symm))
  · have hright := htended.right p.key hc
    have hplace : s.scene.place (charter (moves.filterMap Move.call?)) p.key =
        s.scene.books.place p.lane p.number := by
      rw [Scene.place, ← hlane]
      rfl
    cases hi : s.scene.books.place p.lane p.number with
    | some i =>
      rcases hright.booked p i hp (hplace.trans hi) with ⟨e, he, -⟩ | ⟨r, j, hr, hreads, -, hj⟩
      · simp [hpending] at he
      · refine ⟨r, hr, ?_⟩
        rcases hj with hj | ⟨e, he, -⟩
        · exact hj ▸ hreads
        · simp [hpending] at he
    | none =>
      rcases hright.unbooked p hp (hplace.trans hi) with ⟨e, he, -⟩ | hr
      · simp [hpending] at he
      · exact hr

/-- A pull request of a repository, with a page of its own. -/
def samplePull (n : UInt64) (page : String) : Pull :=
  ⟨⟨"octo", "widgets"⟩, ⟨n⟩, page, none, "main", "title", "mona", "link", [], ⟨"0"⟩⟩

/-- Two pull requests are opened. Before any task runs, the first is taken out by hand and booked
again, so that it comes second. Then all tasks run. -/
def rebookingRun : List Move :=
  [.call (.opened (samplePull 1 "one") Time.Timestamp.epoch),
    .call (.opened (samplePull 2 "two") Time.Timestamp.epoch),
    .call (.unbook ⟨⟨"octo", "widgets"⟩, "main"⟩ ⟨1⟩),
    .call (.book ⟨⟨"octo", "widgets"⟩, "main"⟩ ⟨⟨1⟩, "mona", Time.Timestamp.epoch⟩)] ++
  List.replicate 16 .task

/-- After that run the pages show the places, the second one being that of the first. -/
theorem labels_settle_rebooking :
    ∃ s, run? rebookingRun (start ⟨"merge-turn", 0⟩ Memory.volatile Registry.volatile 0) = some s ∧
      s.tasks = [] ∧
      (∃ r, lastReport "one" (delivered s.ledger.reports) = some r ∧
        r.Reads (placeLabel (some 1))) ∧
      ∃ r, lastReport "two" (delivered s.ledger.reports) = some r ∧
        r.Reads (placeLabel (some 0)) := by
  have hrun : ((run? rebookingRun
      (start ⟨"merge-turn", 0⟩ Memory.volatile Registry.volatile 0)).map fun s =>
        (s.tasks, (Desk.position (samplePull 1 "one").lane ⟨1⟩ s.store).answer,
          (Desk.position (samplePull 2 "two").lane ⟨2⟩ s.store).answer)) =
      some ([], .ok (some 1), .ok (some 0)) := by
    decide +kernel
  have hrecords : ((run? rebookingRun
      (start ⟨"merge-turn", 0⟩ Memory.volatile Registry.volatile 0)).map fun s =>
        (s.registry.get? (samplePull 1 "one").key, s.registry.get? (samplePull 2 "two").key)) =
      some (some (samplePull 1 "one"), some (samplePull 2 "two")) := by
    decide +kernel
  obtain ⟨s, hs, hleft⟩ := Option.map_eq_some_iff.1 hrun
  simp only [Prod.mk.injEq] at hleft
  obtain ⟨hidle, hone, htwo⟩ := hleft
  rw [hs, Option.map_some, Option.some.injEq, Prod.mk.injEq] at hrecords
  have hsettled := fun (key : PullKey) (p : Pull) (hp : s.registry.get? key = some p) =>
    labels_settle (m := Memory.volatile) rfl ⟨rfl, Memory.writable_of_backing_none rfl⟩ rfl rfl
      ⟨by decide, by decide, by decide⟩ hs hidle hp
  obtain ⟨-, -, place, hplace, hlabel⟩ := hsettled _ _ hrecords.1
  cases hone.symm.trans hplace
  obtain ⟨-, -, place, hplace', hlabel'⟩ := hsettled _ _ hrecords.2
  cases htwo.symm.trans hplace'
  exact ⟨s, hs, hidle, hlabel, hlabel'⟩

end MergeTurn.Service
