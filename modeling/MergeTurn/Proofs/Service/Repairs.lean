import MergeTurn.Proofs.Service.Scene

set_option autoImplicit false

/-!
# Which task repairs which label

The label of a pull request may be wrong for a while: it was booked and nobody has told it its
place, those before it were removed and it has moved up, or it was removed and still shows that it
may be merged. In each case a change is pending that, when it is followed up, sets the label right.
And a pull request that was removed and booked again is told so last, since changes are followed up
in order.

## Main definitions

* `MergeTurn.Scene.Sound` — every change and every record is about a pull request in its own lane,
  with a page of its own.
* `MergeTurn.Scene.Right` — the label of a pull request is right or will be repaired.
* `MergeTurn.Scene.Tended` — this is so for all of them.

## Main results

* `MergeTurn.Scene.Tended.tell`, `note_tell`, `book`, `unbook`, `drop` — what calls do keeps it.
* `MergeTurn.Scene.Tended.followAdded`, `followRemoved` — so does following up a change.
-/

namespace MergeTurn

/-! ## Labels -/

/-- A report reads like another, whatever pages they link to. -/
def StatusReport.Reads (r r' : StatusReport) : Prop :=
  r.state = r'.state ∧ r.description = r'.description

/-- A link does not change how a report reads. -/
lemma StatusReport.reads_withTarget (r : StatusReport) (url : String) :
    (r.withTarget url).Reads r := ⟨rfl, rfl⟩

/-- All places that are not shown as numbers look the same. -/
lemma placeLabel_eq_of_lt {i j : Nat} (hi : lastShownPlace < i) (hj : lastShownPlace < j) :
    placeLabel (some i) = placeLabel (some j) := by
  have hfar : ∀ n, lastShownPlace < n →
      placeLabel (some n) =
        .plain .failure ("More than " ++ toString lastShownPlace ++ " PRs before you") := by
    intro n hn
    obtain ⟨k, rfl⟩ : ∃ k, n = k + 2 := ⟨n - 2, by unfold lastShownPlace at hn; omega⟩
    simp [placeLabel, Nat.not_le.2 hn]
  rw [hfar i hi, hfar j hj]

/-- Who has no place is not told to be the first. -/
lemma placeLabel_none_not_turn (url : String) :
    ¬ ((placeLabel none).withTarget url).Reads (placeLabel (some 0)) := by
  rintro ⟨h, -⟩
  cases h

/-! ## Changes -/

namespace LaneEvent

/-- The pull request that a change is about. -/
def key (e : LaneEvent) : PullKey := ⟨e.lane.repo, e.booking.number⟩

/-- A change that brings a pull request into a lane. -/
def Adds (e : LaneEvent) : Prop := ∃ l b place, e = .added l b place

/-- A change that takes a pull request out of a lane. -/
def Removes (e : LaneEvent) : Prop := ∃ l b removal, e = .removed l b removal

/-- A removal of a pull request that stays open, so that its label has to be taken back. -/
def Reblocks (e : LaneEvent) : Prop :=
  ∃ l b removal, e = .removed l b removal ∧ removal.closed = false

/-- No change does both. -/
lemma Adds.not_removes {e : LaneEvent} (h : e.Adds) : ¬ e.Removes := by
  rintro ⟨l, b, removal, rfl⟩
  obtain ⟨l', b', place, h⟩ := h
  cases h

end LaneEvent

/-- The last of some changes that is about a pull request. -/
def lastAbout (key : PullKey) (es : List LaneEvent) : Option LaneEvent :=
  es.reverse.find? (·.key == key)

/-- A change at the end is the last if it is about the pull request. -/
lemma lastAbout_append (key : PullKey) (es : List LaneEvent) (e : LaneEvent) :
    lastAbout key (es ++ [e]) = if e.key = key then some e else lastAbout key es := by
  by_cases h : e.key = key <;> simp [lastAbout, h]

/-- Changes at the end that are not about the pull request do not matter. -/
lemma lastAbout_append_of_ne {key : PullKey} {es : List LaneEvent} (h : ∀ e ∈ es, e.key ≠ key)
    (before : List LaneEvent) : lastAbout key (before ++ es) = lastAbout key before := by
  have hnone : es.reverse.find? (·.key == key) = none := by
    simpa using h
  rw [lastAbout, List.reverse_append, List.find?_append, hnone, Option.none_or, lastAbout]

/-- A change at the front is the last only if no other is about the pull request. -/
lemma lastAbout_cons (key : PullKey) (es : List LaneEvent) (e : LaneEvent) :
    lastAbout key (e :: es) = (lastAbout key es).or (if e.key = key then some e else none) := by
  by_cases h : e.key = key <;> simp [lastAbout, h, List.find?_append]

/-- The last change about a pull request is one of the changes and is about it. -/
lemma mem_of_lastAbout {key : PullKey} {es : List LaneEvent} {e : LaneEvent}
    (h : lastAbout key es = some e) : e ∈ es ∧ e.key = key :=
  ⟨List.mem_reverse.1 (List.mem_of_find?_eq_some h), by simpa using List.find?_some h⟩

/-! ## The invariant -/

/-- To which lane each pull request belongs, and to which pull request each page. -/
structure Charter where
  home : PullKey → Lane
  owner : String → PullKey
  home_repo : ∀ key, (home key).repo = key.repo

namespace Books

/-- Whoever is in a lane belongs to it. -/
def Homed (C : Charter) (k : Books) : Prop :=
  ∀ l : Lane, l.repo.Colonless → ∀ n, k.Lists l.storeKey n → l = C.home ⟨l.repo, n⟩

variable {C : Charter} {k : Books} {l : Lane} {b : Booking} {n : PullNumber}

/-- A pull request may be booked in the lane that it belongs to. -/
lemma Homed.book (h : k.Homed C) (hl : l.repo.Colonless) (hhome : l = C.home ⟨l.repo, b.number⟩) :
    ((k.addMember l.repo.storeKey b.number).append l.storeKey b).Homed C := by
  intro l' hl' n hn
  rcases (lists_book hl hl' n).1 hn with hn | ⟨rfl, rfl⟩
  · exact h l' hl' n hn
  · exact hhome

/-- Any pull request may be removed. -/
lemma Homed.unbook (h : k.Homed C) (hk : k.InStep) (hl : l.repo.Colonless) :
    ((k.removeFirst l.storeKey n).removeMember l.repo.storeKey n).Homed C :=
  fun l' hl' m hm => h l' hl' m ((hk.lists_unbook hl hl' m).1 hm).1

end Books

namespace Scene

/-- The place of a pull request in its lane. -/
def place (C : Charter) (v : Scene) (key : PullKey) : Option Nat :=
  v.books.place (C.home key) key.number

/-- Every change and every record is about a pull request in its own lane, with a page of its
own, and so is every booking. -/
structure Sound (C : Charter) (v : Scene) : Prop where
  inStep : v.books.InStep
  lists : ∀ l : Lane, l.repo.Colonless → ∀ n, v.books.Lists l.storeKey n → l = C.home ⟨l.repo, n⟩
  pending : ∀ e ∈ v.pending, e.lane = C.home e.key ∧ e.lane.repo.Colonless
  record : ∀ key p, v.record key = some p →
    p.key = key ∧ p.lane = C.home key ∧ C.owner p.statusUrl = key ∧ key.repo.Colonless

/-- The label of a pull request is right or will be repaired. -/
structure Right (C : Charter) (v : Scene) (key : PullKey) : Prop where
  /-- What is followed up last about a booked pull request is its booking. -/
  last : ∀ i, v.place C key = some i → ∀ e, lastAbout key v.pending = some e → e.Adds
  /-- A booked pull request is going to be told its place, or it was told one from which it has
  since moved up, unseen or by a removal that is to be followed up. -/
  booked : ∀ p i, v.record key = some p → v.place C key = some i →
    (∃ e ∈ v.pending, e.key = key ∧ e.Adds) ∨
    ∃ r j, v.told p.statusUrl = some r ∧ r.Reads (placeLabel (some j)) ∧ i ≤ j ∧
      (placeLabel (some j) = placeLabel (some i) ∨
        ∃ e ∈ v.pending, e.lane = C.home key ∧ e.Removes)
  /-- One that is not booked is going to be told so, or it does not show that it may be merged. -/
  unbooked : ∀ p, v.record key = some p → v.place C key = none →
    (∃ e ∈ v.pending, e.key = key ∧ e.Reblocks) ∨
    ∀ r, v.told p.statusUrl = some r → ¬ r.Reads (placeLabel (some 0))

/-- The labels of all pull requests are right or will be repaired. -/
structure Tended (C : Charter) (v : Scene) : Prop extends Sound C v where
  right : ∀ key : PullKey, key.repo.Colonless → v.Right C key

variable {C : Charter} {v w : Scene} {key : PullKey} {p : Pull} {e : LaneEvent}
  {es : List LaneEvent}

/-- In a scene where nothing has happened yet nothing is to be done. -/
lemma tended_of_empty (hb : v.books = Books.empty) (hr : ∀ key, v.record key = none)
    (hp : v.pending = []) : v.Tended C where
  inStep := hb ▸ Books.inStep_empty
  lists l _ n h := by simp [hb, Books.empty, Books.Lists] at h
  pending e he := by simp [hp] at he
  record key p h := by simp [hr] at h
  right key _ := by
    constructor
    case last =>
      intro i hi
      simp [place, hb, Books.place, Books.empty] at hi
    case booked =>
      intro p i h
      simp [hr] at h
    case unbooked =>
      intro p h
      simp [hr] at h

namespace Right

/-- What is done for other pull requests leaves the label of one as right as it was: it may move up
when the removal is to be followed up. -/
lemma frame (h : v.Right C key) (hrecord : w.record key = v.record key)
    (htold : ∀ p, v.record key = some p → w.told p.statusUrl = v.told p.statusUrl)
    (hpending : ∃ es, w.pending = v.pending ++ es ∧ ∀ e ∈ es, e.key ≠ key)
    (hnone : v.place C key = none → w.place C key = none)
    (hsome : ∀ i, v.place C key = some i → ∃ j ≤ i, w.place C key = some j ∧
      (j = i ∨ ∃ e ∈ w.pending, e.lane = C.home key ∧ e.Removes)) :
    w.Right C key := by
  obtain ⟨es, hes, hne⟩ := hpending
  have hmem : ∀ e ∈ v.pending, e ∈ w.pending := fun e he => hes ▸ List.mem_append_left es he
  have hlast : lastAbout key w.pending = lastAbout key v.pending := by
    rw [hes, lastAbout_append_of_ne hne]
  have hplace : ∀ i, w.place C key = some i → ∃ j, i ≤ j ∧ v.place C key = some j ∧
      (i = j ∨ ∃ e ∈ w.pending, e.lane = C.home key ∧ e.Removes) := by
    intro i hi
    cases hv : v.place C key with
    | none => cases (hnone hv).symm.trans hi
    | some j =>
      obtain ⟨i', hle, hi', hmoved⟩ := hsome j hv
      cases hi.symm.trans hi'
      exact ⟨j, hle, rfl, hmoved⟩
  constructor
  case last =>
    intro i hi e he
    obtain ⟨j, -, hj, -⟩ := hplace i hi
    exact h.last j hj e (hlast ▸ he)
  case booked =>
    intro p i hp hi
    rw [hrecord] at hp
    obtain ⟨j, hij, hj, hmoved⟩ := hplace i hi
    rcases h.booked p j hp hj with ⟨e, he, hadd⟩ | ⟨r, k, hr, hreads, hjk, hk⟩
    · exact .inl ⟨e, hmem e he, hadd⟩
    · refine .inr ⟨r, k, (htold p hp).trans hr, hreads, Nat.le_trans hij hjk, ?_⟩
      rcases hmoved with rfl | hmoved
      · exact hk.imp_right fun ⟨e, he, hrem⟩ => ⟨e, hmem e he, hrem⟩
      · exact .inr hmoved
  case unbooked =>
    intro p hp hi
    rw [hrecord] at hp
    have hv : v.place C key = none := by
      cases hv : v.place C key with
      | none => rfl
      | some j =>
        obtain ⟨i, -, hi', -⟩ := hsome j hv
        cases hi.symm.trans hi'
    rcases h.unbooked p hp hv with ⟨e, he, hre⟩ | hr
    · exact .inl ⟨e, hmem e he, hre⟩
    · right
      intro r hr'
      exact hr r ((htold p hp).symm.trans hr')

/-- A pull request that was just told its place shows the right label. -/
lemma of_told (hp : w.record key = some p)
    (hlast : ∀ i, w.place C key = some i → ∀ e, lastAbout key w.pending = some e → e.Adds)
    (htold : w.told p.statusUrl = some ((placeLabel (w.place C key)).withTarget p.pageUrl)) :
    w.Right C key := by
  constructor
  case last => exact hlast
  case booked =>
    intro q i hq hi
    cases hp.symm.trans hq
    rw [hi] at htold
    exact .inr ⟨_, i, htold, StatusReport.reads_withTarget _ _, Nat.le_refl i, .inl rfl⟩
  case unbooked =>
    intro q hq hi
    cases hp.symm.trans hq
    rw [hi] at htold
    right
    intro r hr
    cases htold.symm.trans hr
    exact placeLabel_none_not_turn _

/-- A pull request that is not on record and not booked has no label to be wrong. -/
lemma of_gone (hp : w.record key = none) (hi : w.place C key = none) : w.Right C key := by
  constructor
  case last =>
    intro i hi'
    cases hi.symm.trans hi'
  case booked =>
    intro p i h
    cases hp.symm.trans h
  case unbooked =>
    intro p h
    cases hp.symm.trans h

/-- A pull request that was just booked is going to be told its place. -/
lemma of_booked {i : Nat} (hi : w.place C key = some i) (he : lastAbout key w.pending = some e)
    (hadd : e.Adds) : w.Right C key := by
  obtain ⟨hmem, hkey⟩ := mem_of_lastAbout he
  constructor
  case last =>
    intro j _ e' he'
    cases he.symm.trans he'
    exact hadd
  case booked =>
    intro p j _ _
    exact .inl ⟨e, hmem, hkey, hadd⟩
  case unbooked =>
    intro p _ hi'
    cases hi.symm.trans hi'

/-- A pull request that was just taken out of its lane is going to be told so. -/
lemma of_unbooked (hi : w.place C key = none) (he : e ∈ w.pending) (hkey : e.key = key)
    (hre : e.Reblocks) : w.Right C key := by
  constructor
  case last =>
    intro i hi'
    cases hi.symm.trans hi'
  case booked =>
    intro p i _ hi'
    cases hi.symm.trans hi'
  case unbooked =>
    intro p _ _
    exact .inl ⟨e, he, hkey, hre⟩

end Right

/-! ## What calls do -/

/-- A report to a page of another pull request changes nothing for this one. -/
lemma Right.tell_of_ne (h : v.Right C key) {url : String} (r : StatusReport)
    (hne : ∀ q, v.record key = some q → q.statusUrl ≠ url) : (v.tell url r).Right C key := by
  refine h.frame rfl (fun q hq => ?_) ⟨[], by simp [tell], by simp⟩ id
    fun i hi => ⟨i, Nat.le_refl i, hi, .inl rfl⟩
  rw [told_tell, if_neg (hne q hq)]

/-- A record of another pull request changes nothing for this one. -/
lemma Right.note_of_ne (h : v.Right C key) (hne : key ≠ p.key) : (v.note p).Right C key := by
  refine h.frame ?_ (fun q hq => rfl) ⟨[], by simp [note], by simp⟩ id
    fun i hi => ⟨i, Nat.le_refl i, hi, .inl rfl⟩
  rw [record_note, if_neg hne]

/-- Two pull requests on record have different pages. -/
lemma Sound.statusUrl_ne (h : v.Sound C) {q : Pull} (hq : v.record key = some q) {url : String}
    (hne : key ≠ C.owner url) : q.statusUrl ≠ url := by
  rintro rfl
  exact hne (h.record key q hq).2.2.1.symm

/-- A report does not touch what the scene is about. -/
lemma Sound.tell (h : v.Sound C) (url : String) (r : StatusReport) : (v.tell url r).Sound C :=
  ⟨h.inStep, h.lists, h.pending, h.record⟩

/-- The record of a pull request that belongs to its lane and has a page of its own may be made. -/
lemma Sound.note (h : v.Sound C) (hlane : p.lane = C.home p.key)
    (howner : C.owner p.statusUrl = p.key) (hc : p.key.repo.Colonless) : (v.note p).Sound C := by
  refine ⟨h.inStep, h.lists, h.pending, fun key q hq => ?_⟩
  by_cases hkey : key = p.key
  · subst hkey
    obtain rfl : p = q := by simpa [record_note] using hq
    exact ⟨rfl, hlane, howner, hc⟩
  · rw [record_note, if_neg hkey] at hq
    exact h.record key q hq

/-- A record may be given up. -/
lemma Sound.drop (h : v.Sound C) (gone : PullKey) : (v.drop gone).Sound C := by
  refine ⟨h.inStep, h.lists, h.pending, fun key q hq => ?_⟩
  by_cases hkey : key = gone
  · simp [record_drop, hkey] at hq
  · rw [record_drop, if_neg hkey] at hq
    exact h.record key q hq

/-- A pull request that is recorded and told its place at once is tended. -/
lemma Tended.note_tell (h : v.Tended C) (hlane : p.lane = C.home p.key)
    (howner : C.owner p.statusUrl = p.key) (hc : p.key.repo.Colonless) :
    ((v.note p).tell p.statusUrl
      ((placeLabel (v.place C p.key)).withTarget p.pageUrl)).Tended C := by
  have hsound := h.note hlane howner hc
  refine ⟨hsound.tell _ _, fun key hkey => ?_⟩
  by_cases he : key = p.key
  · subst he
    exact .of_told ((record_note ..).trans (if_pos rfl)) (h.right _ hkey).last
      ((told_tell ..).trans (if_pos rfl))
  · refine ((h.right key hkey).note_of_ne he).tell_of_ne _ fun q hq => ?_
    exact hsound.statusUrl_ne hq (howner ▸ he)

section Change

variable {l : Lane} {b : Booking}

/-- Pull requests are the same if their lanes and numbers are. -/
lemma eq_of_home (h : C.home key = l) (hn : key.number = b.number) : key = ⟨l.repo, b.number⟩ := by
  obtain ⟨repo, number⟩ := key
  have hrepo := C.home_repo ⟨repo, number⟩
  rw [h] at hrepo
  cases hrepo
  cases hn
  rfl

/-- The booking of a pull request that was in no lane of its repository, when all others are
tended. -/
lemma Sound.book (h : v.Sound C) (hl : l.repo.Colonless) (hhome : l = C.home ⟨l.repo, b.number⟩)
    (hm : v.books.member l.repo.storeKey b.number = false)
    (hothers : ∀ key : PullKey, key.repo.Colonless → key ≠ ⟨l.repo, b.number⟩ → v.Right C key)
    (place : Nat) :
    (v.change (.added l b place)
      ((v.books.addMember l.repo.storeKey b.number).append l.storeKey b)).Tended C := by
  have hnot : ¬ v.books.Lists l.storeKey b.number := h.inStep.not_lists hl hm
  have hplace : ∀ key : PullKey, key.repo.Colonless →
      (v.change (.added l b place)
        ((v.books.addMember l.repo.storeKey b.number).append l.storeKey b)).place C key =
      if C.home key = l ∧ key.number = b.number then some (v.books.list l.storeKey).length
      else v.place C key := by
    intro key hkey
    exact Books.place_book hl (by rw [C.home_repo]; exact hkey) hnot key.number
  refine ⟨⟨h.inStep.book hl hm, Books.Homed.book h.lists hl hhome, ?_, h.record⟩,
    fun key hkey => ?_⟩
  · intro e he
    rcases List.mem_append.1 he with he | he
    · exact h.pending e he
    · rw [List.mem_singleton.1 he]
      exact ⟨hhome, hl⟩
  · by_cases he : key = ⟨l.repo, b.number⟩
    · have hat := hplace key hkey
      rw [if_pos ⟨by rw [he]; exact hhome.symm, by rw [he]⟩] at hat
      refine .of_booked (e := .added l b place) hat ?_ ⟨l, b, place, rfl⟩
      exact (lastAbout_append ..).trans (if_pos he.symm)
    · refine (hothers key hkey he).frame rfl (fun q hq => rfl)
        ⟨_, rfl, by simpa using fun e => he e.symm⟩ ?_ ?_
      all_goals
        rw [hplace key hkey, if_neg fun hat => he (eq_of_home hat.1 hat.2)]
      · exact id
      · exact fun i hi => ⟨i, Nat.le_refl i, hi, .inl rfl⟩

/-- The removal of a pull request from its lane: the scene is sound, the pull request has no place,
and all others are tended. -/
lemma Tended.unbook (h : v.Tended C) (hl : l.repo.Colonless)
    (hlists : v.books.Lists l.storeKey b.number) (removal : Removal) :
    let w := v.change (.removed l b removal)
      ((v.books.removeFirst l.storeKey b.number).removeMember l.repo.storeKey b.number)
    w.Sound C ∧ w.place C ⟨l.repo, b.number⟩ = none ∧
      ∀ key : PullKey, key.repo.Colonless → key ≠ ⟨l.repo, b.number⟩ → w.Right C key := by
  intro w
  have hhome := h.lists l hl b.number hlists
  refine ⟨⟨h.inStep.unbook hl hlists, Books.Homed.unbook h.lists h.inStep hl, ?_, h.record⟩, ?_,
    fun key hkey hne => ?_⟩
  · intro e he
    rcases List.mem_append.1 he with he | he
    · exact h.pending e he
    · rw [List.mem_singleton.1 he]
      exact ⟨hhome, hl⟩
  · rw [place, ← hhome]
    exact h.inStep.place_unbook hl
  · have hkl : (C.home key).repo.Colonless := by rw [C.home_repo]; exact hkey
    refine (h.right key hkey).frame rfl (fun q hq => rfl)
      ⟨_, rfl, by simpa using fun e => hne e.symm⟩ ?_ ?_
    · intro hi
      by_cases hlane : C.home key = l
      · have hn : key.number ≠ b.number := fun hn => hne (eq_of_home hlane hn)
        rw [place, hlane] at hi ⊢
        exact (Books.place_unbook_le hl hn).1 hi
      · exact (Books.place_unbook_of_ne hl hkl hlane).trans hi
    · intro i hi
      by_cases hlane : C.home key = l
      · have hn : key.number ≠ b.number := fun hn => hne (eq_of_home hlane hn)
        rw [place, hlane] at hi ⊢
        obtain ⟨j, hj, hat⟩ := (Books.place_unbook_le hl hn).2 i hi
        exact ⟨j, hj, hat, .inr ⟨_, List.mem_append_right _ List.mem_cons_self, rfl,
          ⟨l, b, removal, rfl⟩⟩⟩
      · exact ⟨i, Nat.le_refl i, (Books.place_unbook_of_ne hl hkl hlane).trans hi, .inl rfl⟩

/-- A removal of a pull request that stays open keeps all tended. -/
lemma Tended.unbook_open (h : v.Tended C) (hl : l.repo.Colonless)
    (hlists : v.books.Lists l.storeKey b.number) {removal : Removal}
    (hopen : removal.closed = false) :
    (v.change (.removed l b removal)
      ((v.books.removeFirst l.storeKey b.number).removeMember l.repo.storeKey
        b.number)).Tended C := by
  obtain ⟨hsound, hnone, hothers⟩ := h.unbook hl hlists removal
  refine ⟨hsound, fun key hkey => ?_⟩
  by_cases he : key = ⟨l.repo, b.number⟩
  · subst he
    exact .of_unbooked hnone (List.mem_append_right _ List.mem_cons_self) rfl
      ⟨l, b, removal, rfl, hopen⟩
  · exact hothers key hkey he

end Change

/-- A pull request that has no place may get a last report and be forgotten, when all others are
tended. -/
lemma Sound.tell_drop (h : v.Sound C) (hnone : v.place C key = none)
    (hothers : ∀ other : PullKey, other.repo.Colonless → other ≠ key → v.Right C other)
    {url : String} (howner : C.owner url = key) (r : StatusReport) :
    ((v.tell url r).drop key).Tended C := by
  refine ⟨(h.tell url r).drop key, fun other hother => ?_⟩
  by_cases he : other = key
  · subst he
    exact .of_gone ((record_drop ..).trans (if_pos rfl)) hnone
  · refine ((hothers other hother he).tell_of_ne r fun q hq => ?_).frame ?_ (fun q hq => rfl)
      ⟨[], (List.append_nil _).symm, by simp⟩ id fun i hi => ⟨i, Nat.le_refl i, hi, .inl rfl⟩
    · exact h.statusUrl_ne hq (howner ▸ he)
    · rw [record_drop, if_neg he]

/-! ## What following up changes does -/

/-- The scene when other changes are still to be followed up. -/
def due (es : List LaneEvent) (v : Scene) : Scene := { v with pending := es }

/-- A scene stays sound when a change has been taken up. -/
lemma Sound.due (h : v.Sound C) (hv : v.pending = e :: es) : (v.due es).Sound C :=
  ⟨h.inStep, h.lists, fun x hx => h.pending x (hv ▸ List.mem_cons_of_mem e hx), h.record⟩

/-- Taking up a change does not matter to what is followed up last about a booked pull request. -/
lemma Right.last_due (h : v.Right C key) (hv : v.pending = e :: es) {i : Nat}
    (hi : v.place C key = some i) {x : LaneEvent} (hx : lastAbout key es = some x) : x.Adds := by
  refine h.last i hi x ?_
  rw [hv, lastAbout_cons, hx, Option.some_or]

/-- Taking up a change about another pull request, which is not a removal from the own lane, leaves
the label as right as it was. -/
lemma Right.due (h : v.Right C key) (hv : v.pending = e :: es) (hkey : e.key ≠ key)
    (hlane : e.Removes → e.lane ≠ C.home key) : (v.due es).Right C key := by
  have hother : ∀ x ∈ v.pending, x ≠ e → x ∈ es := by
    intro x hx hne
    rw [hv] at hx
    exact (List.mem_cons.1 hx).resolve_left hne
  constructor
  case last =>
    intro i hi x hx
    exact h.last_due hv hi hx
  case booked =>
    intro p i hp hi
    rcases h.booked p i hp hi with ⟨x, hx, hxk, hadd⟩ | ⟨r, j, hr, hreads, hij, hj⟩
    · exact .inl ⟨x, hother x hx (fun e => hkey (e ▸ hxk)), hxk, hadd⟩
    · refine .inr ⟨r, j, hr, hreads, hij, hj.imp_right ?_⟩
      rintro ⟨x, hx, hxl, hrem⟩
      exact ⟨x, hother x hx (fun e => hlane (e ▸ hrem) (e ▸ hxl)), hxl, hrem⟩
  case unbooked =>
    intro p hp hi
    rcases h.unbooked p hp hi with ⟨x, hx, hxk, hre⟩ | hr
    · exact .inl ⟨x, hother x hx (fun e => hkey (e ▸ hxk)), hxk, hre⟩
    · exact .inr hr

/-- Following up a booking keeps all tended. -/
theorem Tended.followAdded (h : v.Tended C) {l : Lane} {b : Booking} {place : Nat}
    (hv : v.pending = .added l b place :: es) :
    Tended C (match v.record ⟨l.repo, b.number⟩ with
      | none => v.due es
      | some p => (v.due es).tell p.statusUrl
          ((placeLabel (v.books.place l b.number)).withTarget p.pageUrl)) := by
  have hsound := h.toSound.due hv
  have hhome : l = C.home ⟨l.repo, b.number⟩ := (h.pending (.added l b place) (by simp [hv])).1
  have hnot : ¬ (LaneEvent.added l b place).Removes := LaneEvent.Adds.not_removes ⟨l, b, place, rfl⟩
  have hothers : ∀ key : PullKey, key.repo.Colonless → ⟨l.repo, b.number⟩ ≠ key →
      (v.due es).Right C key :=
    fun key hkey hne => (h.right key hkey).due hv hne fun hrem => absurd hrem hnot
  cases hp : v.record ⟨l.repo, b.number⟩ with
  | none =>
    refine ⟨hsound, fun key hkey => ?_⟩
    by_cases he : ⟨l.repo, b.number⟩ = key
    · subst he
      constructor
      case last =>
        intro i hi x hx
        exact (h.right _ hkey).last_due hv hi hx
      case booked =>
        intro p i hp'
        cases hp.symm.trans hp'
      case unbooked =>
        intro p hp'
        cases hp.symm.trans hp'
    · exact hothers key hkey he
  | some p =>
    refine ⟨hsound.tell _ _, fun key hkey => ?_⟩
    by_cases he : ⟨l.repo, b.number⟩ = key
    · subst he
      refine .of_told (p := p) hp (fun i hi x hx => (h.right _ hkey).last_due hv hi hx) ?_
      rw [told_tell, if_pos rfl, Scene.place, ← hhome]
      rfl
    · refine (hothers key hkey he).tell_of_ne _ fun q hq => ?_
      refine hsound.statusUrl_ne hq fun hk => he ?_
      exact ((h.record _ p hp).2.2.1).symm.trans hk.symm

namespace Shows

variable {l : Lane}

/-- Whoever is told a place by the labels of a lane has this place there. -/
lemma place_of_told (hv : v.Sound C) (hl : l.repo.Colonless) {i : Nat} {b : Booking}
    (hb : ((v.books.list l.storeKey).take (lastShownPlace + 1))[i]? = some b) :
    C.home ⟨l.repo, b.number⟩ = l ∧ v.place C ⟨l.repo, b.number⟩ = some i ∧ i ≤ lastShownPlace := by
  have hi : i < lastShownPlace + 1 := by
    have hlen := (List.getElem?_eq_some_iff.1 hb).1
    rw [List.length_take] at hlen
    omega
  rw [List.getElem?_take_of_lt hi] at hb
  have hlists : v.books.Lists l.storeKey b.number :=
    List.mem_map.2 ⟨b, List.mem_of_getElem? hb, rfl⟩
  have hhome := (hv.lists l hl b.number hlists).symm
  refine ⟨hhome, ?_, by omega⟩
  rw [Scene.place, hhome]
  exact Books.place_of_getElem? (hv.inStep.nodup l hl) hb

/-- Who is at a visible place of the lane is told it. -/
lemma told_front (hv : v.Sound C)
    (h : Shows l.repo 0 ((v.books.list l.storeKey).take (lastShownPlace + 1)) v w)
    (hkey : key.repo.Colonless) (hhome : C.home key = l) (hp : v.record key = some p) {i : Nat}
    (hi : v.place C key = some i) (hle : i ≤ lastShownPlace) :
    w.told p.statusUrl = some ((placeLabel (some i)).withTarget p.pageUrl) := by
  have hl : l.repo.Colonless := by
    rw [← hhome, C.home_repo]
    exact hkey
  rcases h.told p.statusUrl with ⟨hne, -⟩ | ⟨j, c, q, hc, hq, hurl, hw⟩
  · -- No report went to this page, though its pull request is among those told.
    rw [Scene.place, hhome] at hi
    obtain ⟨b, hb, hn⟩ := Books.exists_getElem?_of_place hi
    rw [← List.getElem?_take_of_lt (show i < lastShownPlace + 1 by omega)] at hb
    refine absurd rfl (hne b (List.mem_of_getElem? hb) p ?_)
    rw [← eq_of_home hhome hn.symm]
    exact hp
  · obtain ⟨-, hplace, -⟩ := place_of_told hv hl hc
    have hsame : (⟨l.repo, c.number⟩ : PullKey) = key := by
      rw [← (hv.record _ q hq).2.2.1, hurl, (hv.record _ p hp).2.2.1]
    rw [hsame] at hplace hq
    cases hi.symm.trans hplace
    cases hp.symm.trans hq
    rw [hw, Nat.zero_add]

/-- Who is at no visible place of the lane is told nothing. -/
lemma told_other (hv : v.Sound C) (hl : l.repo.Colonless)
    (h : Shows l.repo 0 ((v.books.list l.storeKey).take (lastShownPlace + 1)) v w)
    (hp : v.record key = some p)
    (hnot : C.home key = l → ∀ i, v.place C key = some i → lastShownPlace < i) :
    w.told p.statusUrl = v.told p.statusUrl := by
  rcases h.told p.statusUrl with ⟨-, hw⟩ | ⟨j, c, q, hc, hq, hurl, -⟩
  · exact hw
  · obtain ⟨hhome, hplace, hle⟩ := place_of_told hv hl hc
    have hsame : (⟨l.repo, c.number⟩ : PullKey) = key := by
      rw [← (hv.record _ q hq).2.2.1, hurl, (hv.record _ p hp).2.2.1]
    rw [hsame] at hhome hplace
    have hlt := hnot hhome j hplace
    omega

/-- Setting labels keeps a scene sound. -/
lemma sound {repo : Repo} {place : Nat} {bs : List Booking} (hv : v.Sound C)
    (h : Shows repo place bs v w) : w.Sound C :=
  ⟨h.books ▸ hv.inStep, h.books ▸ hv.lists, h.pending ▸ hv.pending, h.record ▸ hv.record⟩

end Shows

section FollowRemoved

variable {l : Lane} {b : Booking} {removal : Removal}

/-- Setting the labels of a lane makes up for a removal from it: whoever moved up and is seen is
told so, and all others in the lane look as before. -/
lemma Tended.right_of_shows (h : v.Tended C) (hv : v.pending = .removed l b removal :: es)
    (hw : Shows l.repo 0 ((v.books.list l.storeKey).take (lastShownPlace + 1)) (v.due es) w)
    (hkey : key.repo.Colonless) (hne : (⟨l.repo, b.number⟩ : PullKey) ≠ key) : w.Right C key := by
  have hsound := h.toSound.due hv
  have hl : l.repo.Colonless := (h.pending (.removed l b removal) (by simp [hv])).2
  have hplace : w.place C key = v.place C key := by
    rw [Scene.place, hw.books]
    rfl
  have hother : ∀ x ∈ v.pending, x ≠ .removed l b removal → x ∈ w.pending := by
    intro x hx hxe
    rw [hv] at hx
    rw [hw.pending]
    exact (List.mem_cons.1 hx).resolve_left hxe
  have hr := h.right key hkey
  constructor
  case last =>
    intro i hi x hx
    rw [hplace] at hi
    rw [hw.pending] at hx
    exact hr.last_due hv hi hx
  case booked =>
    intro p i hp hi
    rw [hplace] at hi
    rw [hw.record] at hp
    by_cases hfront : C.home key = l ∧ i ≤ lastShownPlace
    · exact .inr ⟨_, i, hw.told_front hsound hkey hfront.1 hp hi hfront.2,
        StatusReport.reads_withTarget _ _, Nat.le_refl i, .inl rfl⟩
    · have htold := hw.told_other hsound hl hp fun hhome j hj => by
        cases hi.symm.trans hj
        exact Nat.lt_of_not_le fun hle => hfront ⟨hhome, hle⟩
      rcases hr.booked p i hp hi with ⟨x, hx, hxk, hadd⟩ | ⟨r, j, hr, hreads, hij, hj⟩
      · exact .inl ⟨x, hother x hx (fun e => hne (by rw [← hxk, e]; rfl)), hxk, hadd⟩
      · refine .inr ⟨r, j, htold.trans hr, hreads, hij, ?_⟩
        -- In the lane of the removal it may have moved up, but only among places that look alike.
        -- In another lane the removal that it waits for is another one.
        by_cases hhome : C.home key = l
        · have hi' : lastShownPlace < i := Nat.lt_of_not_le fun hle => hfront ⟨hhome, hle⟩
          exact .inl (placeLabel_eq_of_lt (by omega) hi')
        · refine hj.imp_right fun ⟨x, hx, hxl, hrem⟩ => ⟨x, hother x hx ?_, hxl, hrem⟩
          rintro rfl
          exact hhome hxl.symm
  case unbooked =>
    intro p hp hi
    rw [hplace] at hi
    rw [hw.record] at hp
    have htold := hw.told_other hsound hl hp fun hhome j hj => by
      cases hi.symm.trans hj
    rcases hr.unbooked p hp hi with ⟨x, hx, hxk, hre⟩ | hr
    · exact .inl ⟨x, hother x hx (fun e => hne (by rw [← hxk, e]; rfl)), hxk, hre⟩
    · right
      intro r hr'
      exact hr r (htold.symm.trans hr')

/-- If a pull request is booked while its removal is still to be followed up, its booking is still
to be followed up after that. -/
lemma Right.exists_adds (h : v.Right C key) (hv : v.pending = e :: es) (he : e.Removes)
    (hkey : e.key = key) {i : Nat} (hi : v.place C key = some i) :
    ∃ x ∈ es, x.key = key ∧ x.Adds := by
  cases hx : lastAbout key es with
  | some x =>
    obtain ⟨hmem, hxk⟩ := mem_of_lastAbout hx
    exact ⟨x, hmem, hxk, h.last_due hv hi hx⟩
  | none =>
    -- Then the removal itself would be the last, and the last is a booking.
    have hadds : e.Adds := by
      refine h.last i hi e ?_
      rw [hv, lastAbout_cons, hx, if_pos hkey, Option.none_or]
    exact absurd he hadds.not_removes

/-- What is followed up last about the removed pull request, if it is booked again, is its booking,
which is pending. -/
lemma Tended.removed_last (h : v.Tended C) (hv : v.pending = .removed l b removal :: es)
    (hw : Shows l.repo 0 ((v.books.list l.storeKey).take (lastShownPlace + 1)) (v.due es) w)
    {i : Nat} (hi : w.place C ⟨l.repo, b.number⟩ = some i) :
    (∀ x, lastAbout ⟨l.repo, b.number⟩ w.pending = some x → x.Adds) ∧
      ∃ x ∈ w.pending, x.key = ⟨l.repo, b.number⟩ ∧ x.Adds := by
  have hl : l.repo.Colonless := (h.pending (.removed l b removal) (by simp [hv])).2
  have hself := h.right ⟨l.repo, b.number⟩ hl
  rw [Scene.place, hw.books] at hi
  rw [hw.pending]
  exact ⟨fun x hx => hself.last_due hv hi hx,
    hself.exists_adds hv ⟨l, b, removal, rfl⟩ rfl hi⟩

/-- The label of a pull request that was closed, or is not on record, need not be taken back. -/
lemma Tended.right_closed (h : v.Tended C) (hv : v.pending = .removed l b removal :: es)
    (hw : Shows l.repo 0 ((v.books.list l.storeKey).take (lastShownPlace + 1)) (v.due es) w)
    (hclosed : removal.closed = true ∨ w.record ⟨l.repo, b.number⟩ = none) :
    w.Right C ⟨l.repo, b.number⟩ := by
  have hl : l.repo.Colonless := (h.pending (.removed l b removal) (by simp [hv])).2
  constructor
  case last =>
    intro i hi
    exact (h.removed_last hv hw hi).1
  case booked =>
    intro p i _ hi
    exact .inl (h.removed_last hv hw hi).2
  case unbooked =>
    intro p hp hi
    rcases hclosed with hclosed | hgone
    · rw [hw.record] at hp
      rw [Scene.place, hw.books] at hi
      have htold := hw.told_other (h.toSound.due hv) hl hp fun _ j hj => by
        cases hi.symm.trans hj
      rcases (h.right _ hl).unbooked p hp hi with ⟨x, hx, hxk, hre⟩ | hr
      · refine .inl ⟨x, ?_, hxk, hre⟩
        rw [hv] at hx
        rw [hw.pending]
        refine (List.mem_cons.1 hx).resolve_left ?_
        rintro rfl
        obtain ⟨l', b', removal', heq, hopen⟩ := hre
        cases heq
        cases hclosed.symm.trans hopen
      · right
        intro r hr'
        exact hr r (htold.symm.trans hr')
    · cases hgone.symm.trans hp

/-- The label of a pull request that stays open has been taken back. -/
lemma Tended.right_reblocked (h : v.Tended C) (hv : v.pending = .removed l b removal :: es)
    (hw : Shows l.repo 0 ((v.books.list l.storeKey).take (lastShownPlace + 1)) (v.due es) w)
    (hp : w.record ⟨l.repo, b.number⟩ = some p) :
    (w.tell p.statusUrl ((placeLabel none).withTarget p.pageUrl)).Right C
      ⟨l.repo, b.number⟩ := by
  constructor
  case last =>
    intro i hi
    exact (h.removed_last hv hw hi).1
  case booked =>
    intro q i _ hi
    exact .inl (h.removed_last hv hw hi).2
  case unbooked =>
    intro q hq _
    right
    intro r hr
    cases hp.symm.trans hq
    rw [told_tell, if_pos rfl] at hr
    cases hr
    exact placeLabel_none_not_turn _

/-- Following up a removal keeps all tended. -/
theorem Tended.followRemoved (h : v.Tended C) (hv : v.pending = .removed l b removal :: es)
    (hw : Shows l.repo 0 ((v.books.list l.storeKey).take (lastShownPlace + 1)) (v.due es) w) :
    Tended C (if removal.closed then w else
      match w.record ⟨l.repo, b.number⟩ with
      | none => w
      | some p => w.tell p.statusUrl ((placeLabel none).withTarget p.pageUrl)) := by
  have hsound := hw.sound (h.toSound.due hv)
  have hkept : removal.closed = true ∨ w.record ⟨l.repo, b.number⟩ = none → w.Tended C := by
    refine fun hclosed => ⟨hsound, fun key hkey => ?_⟩
    by_cases he : ⟨l.repo, b.number⟩ = key
    · exact he ▸ h.right_closed hv hw hclosed
    · exact h.right_of_shows hv hw hkey he
  split
  · next hclosed => exact hkept (.inl hclosed)
  · cases hp : w.record ⟨l.repo, b.number⟩ with
    | none => exact hkept (.inr hp)
    | some p =>
      refine ⟨hsound.tell _ _, fun key hkey => ?_⟩
      by_cases he : ⟨l.repo, b.number⟩ = key
      · exact he ▸ h.right_reblocked hv hw hp
      · refine (h.right_of_shows hv hw hkey he).tell_of_ne _ fun q hq => ?_
        refine hsound.statusUrl_ne hq fun hk => he ?_
        exact ((hsound.record _ p hp).2.2.1).symm.trans hk.symm

end FollowRemoved

end Scene

end MergeTurn
