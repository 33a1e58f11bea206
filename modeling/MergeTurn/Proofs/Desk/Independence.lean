import MergeTurn.Proofs.Desk.Steps
import MergeTurn.Proofs.Store.Keys

set_option autoImplicit false

/-!
# Lanes that have nothing to do with each other

A request about one lane may change what can be read of another one: the store finds lists and sets
by texts, and these do not always tell two lanes or two repositories apart. Two lanes are independent
exactly if both of their keys differ, and those of different repositories without colons do.

## Main definitions

* `MergeTurn.Memory.refusal?` — why a store takes no change at present.
* `MergeTurn.Desk.Independent` — no request about one lane changes an answer about another.

## Main results

* `MergeTurn.Desk.bookings_answer`, `unbook_answer`, `book_answer` — what the desk answers over a
  store in memory, by what can be read of it.
* `MergeTurn.Desk.serve_frame` — what a request leaves alone.
* `MergeTurn.Desk.independent_iff` — which lanes are independent.

## Design

All stores in memory are meant, also those that cannot be reached or cannot write their files. What
such a store answers is settled by its refusal and by what it holds under the keys of the lane.
-/

namespace MergeTurn

namespace Memory

/-- Why the store takes no change at present, if it takes none. -/
def refusal? (m : Memory) : Option StoreError :=
  if m.online then
    if m.backing.all (·.cell.isWritable) then none else some .file
  else some offline

/-- Only a store that cannot be reached says so. -/
lemma refusal?_eq_offline {m : Memory} : m.refusal? = some offline ↔ m.online = false := by
  unfold refusal?
  split_ifs with ho hw
  · simp [ho]
  · simp [ho, offline]
  · simp [ho]

/-- A store that can be reached answers every question. -/
lemma read_eq {α : Type} (f : Shelves → α) (m : Memory) :
    m.read f = (if m.refusal? = some offline then .error offline else .ok (f m.shelves), m) := by
  simp only [read, refusal?_eq_offline]
  cases m.online <;> rfl

/-- A change of the shelves is refused for the store's own reason, or it is made, and the next one
will meet with the same. -/
lemma replace_refusal {α : Type} (answer : α) (s : Shelves) (m : Memory) :
    (m.refusal? = none ∧
      ∃ t : Memory, m.replace answer s = (.ok answer, t) ∧ t.shelves = s ∧ t.refusal? = none) ∨
    (∃ e, m.refusal? = some e ∧ ∃ t : Memory, m.replace answer s = (.error e, t) ∧
      t.shelves = m.shelves ∧ t.refusal? = some e) := by
  cases ho : m.online with
  | false =>
    rw [replace_of_offline answer s (by simp [ho])]
    have hrefused := refusal?_eq_offline.2 ho
    exact .inr ⟨offline, hrefused, m, rfl, rfl, hrefused⟩
  | true =>
    cases hb : m.backing with
    | none =>
      rw [replace_of_backing_none answer s ho hb]
      exact .inl ⟨by simp [refusal?, ho, hb], _, rfl, rfl, by simp [refusal?, ho, hb]⟩
    | some b =>
      rw [replace_of_backing_some answer s ho hb]
      by_cases hw : b.cell.isWritable = true
      · rw [if_pos hw]
        exact .inl ⟨by simp [refusal?, ho, hb, hw], _, rfl, rfl, by simp [refusal?, ho, hw]⟩
      · rw [if_neg hw]
        exact .inr ⟨.file, by simp [refusal?, ho, hb, hw], _, rfl, rfl, by simp [refusal?, ho, hw]⟩

/-- What a store refuses it goes on to refuse, and likewise what it takes. -/
lemma keeps_refusal (e : Option StoreError) : Keeps fun m => m.refusal? = e := by
  intro α answer s m hm
  rcases replace_refusal answer s m with ⟨hnone, t, ht, -, htaken⟩ | ⟨_, hsome, t, ht, -, hrefused⟩
  · rw [ht]
    exact htaken.trans (hnone.symm.trans hm)
  · rw [ht]
    exact hrefused.trans (hsome.symm.trans hm)

end Memory

namespace Desk

/-! ## What the desk answers -/

variable (l : Lane) (n : PullNumber) (closed : Bool) (b : Booking) (m : Memory)

/-- What is answered to a question for the bookings of a lane. -/
lemma bookings_answer : (bookings l m).answer =
    if m.refusal? = some Memory.offline then .error (.store Memory.offline)
    else .ok (m.books.list l.storeKey) := by
  have hread : Store.readRange l.storeKey none m = m.read (·.front l.storeKey none) := rfl
  rw [bookings, hread, Memory.read_eq]
  split_ifs <;> rfl

/-- What is answered to a removal. -/
lemma unbook_answer : (unbook l n closed m).answer =
    if m.refusal? = some Memory.offline then .error (.store Memory.offline)
    else match (m.books.list l.storeKey).find? (·.number == n), m.refusal? with
      | none, _ => .ok .notBooked
      | some _, some e => .error (.store e)
      | some b, none =>
        .ok (.removed b ⟨closed, (m.books.list l.storeKey).head?.any (·.number == n)⟩) := by
  have hread : Store.readRange l.storeKey none m = m.read (·.front l.storeKey none) := rfl
  have hfirst : Store.removeFirst l.storeKey n m =
    m.replace ((m.books.list l.storeKey).any (·.number == n)) (m.shelves.removeFirst l.storeKey n) :=
    rfl
  rw [unbook, hread, Memory.read_eq]
  split_ifs with ho
  · rfl
  · have hlist : m.shelves.front l.storeKey none = m.books.list l.storeKey := rfl
    dsimp only
    rw [hlist]
    cases hb : (m.books.list l.storeKey).find? (·.number == n) with
    | none => rfl
    | some b =>
      have hany : (m.books.list l.storeKey).any (·.number == n) = true :=
        Books.lists_iff_any.1 (Books.lists_of_find? hb)
      dsimp only
      rw [hfirst, hany]
      rcases Memory.replace_refusal true (m.shelves.removeFirst l.storeKey n) m with
        ⟨hnone, t, ht, -, htaken⟩ | ⟨e, he, t, ht, -⟩
      · have hmember : Store.removeMember l.repo.storeKey n t =
          t.replace () (t.shelves.removeMember l.repo.storeKey n) := rfl
        obtain ⟨-, u, hu, -⟩ | ⟨e, he, -⟩ :=
          Memory.replace_refusal () (t.shelves.removeMember l.repo.storeKey n) t
        · simp [ht, hmember, hu, hnone]
        · cases htaken.symm.trans he
      · rw [ht, he]
        rfl

/-- What is answered to a booking. -/
lemma book_answer : (book l b m).answer =
    match b.flaw? with
    | some reason => .error (.invalid reason)
    | none =>
      if m.refusal? = some Memory.offline then .error (.store Memory.offline)
      else match m.books.member l.repo.storeKey b.number, m.refusal? with
        | true, _ => .ok .duplicate
        | false, some e => .error (.store e)
        | false, none => .ok (.added (m.books.list l.storeKey).length) := by
  have hread : Store.isMember l.repo.storeKey b.number m =
    m.read (·.hasMember l.repo.storeKey b.number) := rfl
  have hadd : Store.addMember l.repo.storeKey b.number m =
    m.replace () (m.shelves.addMember l.repo.storeKey b.number) := rfl
  unfold book
  cases b.flaw? with
  | some reason => rfl
  | none =>
    dsimp only
    rw [hread, Memory.read_eq]
    split_ifs with ho
    · rfl
    · have hmember : m.shelves.hasMember l.repo.storeKey b.number =
        m.books.member l.repo.storeKey b.number := rfl
      rw [hmember]
      cases m.books.member l.repo.storeKey b.number with
      | true => rfl
      | false =>
        dsimp only
        rw [hadd]
        rcases Memory.replace_refusal () (m.shelves.addMember l.repo.storeKey b.number) m with
          ⟨hnone, t, ht, hshelves, htaken⟩ | ⟨e, he, t, ht, -⟩
        · have hlist : t.shelves.bookings l.storeKey = m.books.list l.storeKey := by
            rw [hshelves]
            rfl
          have happend : Store.append l.storeKey b t =
              t.replace ((m.books.list l.storeKey).length + 1) (t.shelves.append l.storeKey b) := by
            rw [← hlist]
            rfl
          obtain ⟨-, u, hu, -⟩ | ⟨e, he, -⟩ := Memory.replace_refusal
            ((m.books.list l.storeKey).length + 1) (t.shelves.append l.storeKey b) t
          · simp [ht, happend, hu, hnone]
          · cases htaken.symm.trans he
        · rw [ht, he]
          rfl

/-! ## What a request leaves alone -/

/-- Books that read alike but for the list of a lane and the set of its repository. -/
structure SameBeside (l : Lane) (k k' : Books) : Prop where
  list : ∀ key, key ≠ l.storeKey → k'.list key = k.list key
  member : ∀ scope, scope ≠ l.repo.storeKey → ∀ n, k'.member scope n = k.member scope n

namespace SameBeside

variable {l : Lane} {k k' : Books}

lemma refl (l : Lane) (k : Books) : SameBeside l k k :=
  ⟨fun _ _ => rfl, fun _ _ _ => rfl⟩

lemma addMember (h : SameBeside l k k') (n : PullNumber) :
    SameBeside l k (k'.addMember l.repo.storeKey n) where
  list := h.list
  member scope hs m := (if_neg fun e => hs e.1).trans (h.member scope hs m)

lemma removeMember (h : SameBeside l k k') (n : PullNumber) :
    SameBeside l k (k'.removeMember l.repo.storeKey n) where
  list := h.list
  member scope hs m := (if_neg fun e => hs e.1).trans (h.member scope hs m)

lemma append (h : SameBeside l k k') (b : Booking) :
    SameBeside l k (k'.append l.storeKey b) where
  list key hk := (Function.update_of_ne hk _ _).trans (h.list key hk)
  member := h.member

lemma removeFirst (h : SameBeside l k k') (n : PullNumber) :
    SameBeside l k (k'.removeFirst l.storeKey n) where
  list key hk := (Function.update_of_ne hk _ _).trans (h.list key hk)
  member := h.member

end SameBeside

/-- A request changes neither what the store refuses, nor what is under other keys than those of
its lane. -/
theorem serve_frame (r : Request) :
    (serve r m).store.refusal? = m.refusal? ∧
      SameBeside r.lane m.books (serve r m).store.books := by
  have hkeeps : Memory.Keeps fun t => t.refusal? = m.refusal? := Memory.keeps_refusal _
  have frame : ∀ {l : Lane} {t : Memory} {k : Books}, t.refusal? = m.refusal? → t.books = k →
      SameBeside l m.books k → t.refusal? = m.refusal? ∧ SameBeside l m.books t.books :=
    fun ht h hk => ⟨ht, h ▸ hk⟩
  cases r with
  | book l b =>
    have hends := book_ends (Memory.atomic hkeeps) (s := m) rfl l b
    simp only [serve, Turn.map, Request.lane]
    generalize book l b m = turn at hends ⊢
    cases hends with
    | invalid => exact frame rfl rfl (.refl ..)
    | failed _ ht h => exact frame ht h (.refl ..)
    | stranded _ ht _ h => exact frame ht h ((SameBeside.refl ..).addMember _)
    | duplicate _ ht _ h => exact frame ht h (.refl ..)
    | added _ ht _ h => exact frame ht h (((SameBeside.refl ..).addMember _).append _)
  | unbook l n closed =>
    have hends := unbook_ends (Memory.atomic hkeeps) (s := m) rfl l n closed
    simp only [serve, Turn.map, Request.lane]
    generalize unbook l n closed m = turn at hends ⊢
    cases hends with
    | failed _ ht h => exact frame ht h (.refl ..)
    | halfway _ ht _ h => exact frame ht h ((SameBeside.refl ..).removeFirst _)
    | notBooked _ ht h => exact frame ht h (.refl ..)
    | removed _ ht h => exact frame ht h (((SameBeside.refl ..).removeFirst _).removeMember _)

/-! ## Independence -/

/-- A request about the first lane never changes what is answered about the second: neither which
bookings it has, nor what comes of a removal, nor whether a booking is added. Where a booking
would be added, its place is left out. -/
def Independent (a b : Lane) : Prop :=
  ∀ (m : Memory) (r : Request), r.lane = a →
    (bookings b (serve r m).store).answer = (bookings b m).answer ∧
    (∀ n closed, (unbook b n closed (serve r m).store).answer = (unbook b n closed m).answer) ∧
    ∀ bk, (book b bk (serve r m).store).answer.map (· == .duplicate) =
      (book b bk m).answer.map (· == .duplicate)

/-- Lanes are independent if both of their keys differ. -/
lemma independent_of_ne {a b : Lane} (hlane : a.storeKey ≠ b.storeKey)
    (hrepo : a.repo.storeKey ≠ b.repo.storeKey) : Independent a b := by
  rintro m r rfl
  obtain ⟨hrefusal, hbeside⟩ := serve_frame m r
  have hlist := hbeside.list b.storeKey hlane.symm
  have hmember := hbeside.member b.repo.storeKey hrepo.symm
  refine ⟨?_, fun n closed => ?_, fun bk => ?_⟩
  · rw [bookings_answer, bookings_answer, hrefusal, hlist]
  · rw [unbook_answer, unbook_answer, hrefusal, hlist]
  · rw [book_answer, book_answer, hrefusal, hlist, hmember]

/-- A booking that lacks nothing. -/
def soundBooking : Booking := ⟨⟨7⟩, "mona", Time.Timestamp.epoch⟩

/-- A new store takes the booking, whichever lane it is for. -/
lemma book_volatile (a : Lane) : (book a soundBooking Memory.volatile).store =
    ⟨(Shelves.empty.addMember a.repo.storeKey ⟨7⟩).append a.storeKey soundBooking, none, true⟩ := by
  have hflaw : soundBooking.flaw? = none := by decide +kernel
  unfold book
  rw [hflaw]
  rfl

/-- What a new store holds after the booking. -/
lemma books_book_volatile (a : Lane) : (book a soundBooking Memory.volatile).store.books =
    (Books.empty.addMember a.repo.storeKey ⟨7⟩).append a.storeKey soundBooking := by
  rw [book_volatile, ← Shelves.books_empty, ← Shelves.books_addMember, ← Shelves.books_append]
  rfl

/-- Lanes of one key are not independent: what is booked in the one is read in the other. -/
lemma not_independent_of_lane {a b : Lane} (h : a.storeKey = b.storeKey) : ¬ Independent a b := by
  intro hi
  have hread : (bookings b (book a soundBooking Memory.volatile).store).answer =
    (bookings b Memory.volatile).answer := (hi Memory.volatile (.book a soundBooking) rfl).1
  have hafter : (bookings b (book a soundBooking Memory.volatile).store).answer =
      .ok [soundBooking] := by
    rw [bookings_answer, books_book_volatile, book_volatile, h]
    simp [Books.append, Books.empty, Memory.refusal?]
  have hbefore : (bookings b Memory.volatile).answer = .ok [] := rfl
  rw [hafter, hbefore] at hread
  cases hread

/-- Lanes of repositories of one key are not independent: what is booked in the one is a duplicate
in the other. -/
lemma not_independent_of_repo {a b : Lane} (h : a.repo.storeKey = b.repo.storeKey) :
    ¬ Independent a b := by
  intro hi
  have hflaw : soundBooking.flaw? = none := by decide +kernel
  have hbook : (book b soundBooking (book a soundBooking Memory.volatile).store).answer.map
      (· == .duplicate) = (book b soundBooking Memory.volatile).answer.map (· == .duplicate) :=
    (hi Memory.volatile (.book a soundBooking) rfl).2.2 soundBooking
  have hafter : (book b soundBooking (book a soundBooking Memory.volatile).store).answer =
      .ok .duplicate := by
    have hmember : (book a soundBooking Memory.volatile).store.books.member b.repo.storeKey
        soundBooking.number = true := by
      rw [books_book_volatile, ← h]
      exact if_pos ⟨rfl, rfl⟩
    rw [book_answer, hmember, book_volatile, hflaw]
    rfl
  have hbefore : (book b soundBooking Memory.volatile).answer = .ok (.added 0) := by
    rw [book_answer, hflaw]
    rfl
  rw [hafter, hbefore] at hbook
  cases hbook

/-- Two lanes are independent exactly if their own keys differ and those of their repositories do,
whatever owners, repositories and branches are called. Lanes of different repositories without
colons in their names are.

**Proof sketch.** A request leaves all alone that is under other keys. For the converse a booking
in a new store is enough: it can be read under the lane's key, and it makes a duplicate under the
repository's. -/
theorem independent_iff (a b : Lane) :
    (Independent a b ↔ a.storeKey ≠ b.storeKey ∧ a.repo.storeKey ≠ b.repo.storeKey) ∧
    (a.repo ≠ b.repo → a.repo.Colonless → b.repo.Colonless → Independent a b) := by
  refine ⟨⟨fun hi => ⟨fun h => not_independent_of_lane h hi, fun h => not_independent_of_repo h hi⟩,
    fun h => independent_of_ne h.1 h.2⟩, fun hne ha hb => ?_⟩
  refine independent_of_ne (fun h => hne ?_) (fun h => hne ?_)
  · exact congrArg Lane.repo (Lane.storeKey_inj ha hb h)
  · exact Repo.storeKey_inj ha hb h

/-- The lanes of two repositories of one owner. -/
theorem independent_neighbours :
    Independent ⟨⟨"octo", "widgets"⟩, "main"⟩ ⟨⟨"octo", "gears"⟩, "main"⟩ :=
  (independent_iff _ _).2 (by decide) (by decide) (by decide)

/-- A lane whose repository has a colon in its name. -/
def colonNameLane : Lane := ⟨⟨"a", "b:c"⟩, "main"⟩

/-- A lane whose repository has a colon in its owner. -/
def colonOwnerLane : Lane := ⟨⟨"a:b", "c"⟩, "main"⟩

/-- What is booked in the one lane is read in the other, is taken out there, and is a duplicate
there, though their repositories are not the same. -/
theorem not_independent_colon :
    colonNameLane.repo ≠ colonOwnerLane.repo ∧
      (bookings colonOwnerLane Memory.volatile).answer = .ok [] ∧
      (bookings colonOwnerLane (book colonNameLane soundBooking Memory.volatile).store).answer =
        .ok [soundBooking] ∧
      (unbook colonOwnerLane ⟨7⟩ false Memory.volatile).answer = .ok .notBooked ∧
      (unbook colonOwnerLane ⟨7⟩ false
        (book colonNameLane soundBooking Memory.volatile).store).answer =
        .ok (.removed soundBooking ⟨false, true⟩) ∧
      (book colonOwnerLane soundBooking Memory.volatile).answer = .ok (.added 0) ∧
      (book colonOwnerLane soundBooking
        (book colonNameLane soundBooking Memory.volatile).store).answer = .ok .duplicate ∧
      ¬ Independent colonNameLane colonOwnerLane := by
  refine ⟨by decide, ?_, ?_, ?_, ?_, ?_, ?_, not_independent_of_lane (by decide +kernel)⟩
  all_goals decide +kernel

end Desk

end MergeTurn
