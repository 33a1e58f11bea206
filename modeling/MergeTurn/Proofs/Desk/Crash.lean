import MergeTurn.Proofs.Desk.Halfway
import MergeTurn.Proofs.Store.Reload

set_option autoImplicit false

/-!
# Stopping between two writes

A request that changes anything writes twice, to a list and to a set, and the process can stop after
any write. The store that is then opened again has lists and sets in step, but for one pull request
at most: the one of a request that was stopped between its two writes is in the set and in no list.
Every other pull request that is in no list can be booked, and that one cannot.

## Main definitions

* `MergeTurn.Chronicle` — a store with its states before each of its writes.
* `MergeTurn.Desk.Call`, `MergeTurn.Desk.run` — requests at their times, one after the other.
* `MergeTurn.Desk.Inside` — a number of writes that ends between the writes of a call.
* `MergeTurn.Books.InStepBut` — lists and sets in step but for some pull requests.

## Main results

* `MergeTurn.Desk.serve_chronicle` — what a request writes.
* `MergeTurn.Desk.reopen_after_stop` — what is found when the store is opened again.

## Design

A process that stops after a number of writes leaves the file as the last of them made it, whatever
it would have gone on to do. So all that can be left is found in the states that a run goes through,
one for each number of writes.
-/

namespace MergeTurn

/-- A store with its states before each of its writes, the first one first. -/
structure Chronicle (σ : Type) where
  past : List σ
  now : σ

namespace Chronicle

variable {σ α : Type}

/-- The states of a store after no write, after one, and so on. -/
def states (s : Chronicle σ) : List σ := s.past ++ [s.now]

/-- A call that only reads. -/
def ask (op : σ → Except StoreError α × σ) (s : Chronicle σ) : Except StoreError α × Chronicle σ :=
  ((op s.now).1, { s with now := (op s.now).2 })

/-- A call that writes. It counts only if it succeeds. -/
def write (op : σ → Except StoreError α × σ) (s : Chronicle σ) :
    Except StoreError α × Chronicle σ :=
  match op s.now with
  | (.ok a, t) => (.ok a, ⟨s.past ++ [s.now], t⟩)
  | (.error e, t) => (.error e, { s with now := t })

instance [Store σ] : Store (Chronicle σ) where
  isMember scope n := ask (Store.isMember scope n)
  addMember scope n := write (Store.addMember scope n)
  removeMember scope n := write (Store.removeMember scope n)
  append key b := write (Store.append key b)
  removeFirst key n := write (Store.removeFirst key n)
  readRange key limit := ask (Store.readRange key limit)
  length key := ask (Store.length key)

/-- A store that keeps its file takes every write. -/
lemma write_replace {s : Chronicle Memory} (hs : s.now.Kept) {answer : α} {shelves : Shelves}
    (h : shelves.AllNamed) {op : Memory → Except StoreError α × Memory}
    (hop : op s.now = s.now.replace answer shelves) {books : Books} (hb : shelves.books = books) :
    ∃ t : Memory, write op s = (.ok answer, ⟨s.past ++ [s.now], t⟩) ∧ t.Kept ∧ t.books = books := by
  obtain ⟨t, ht, hkept, hshelves⟩ := hs.replace answer h
  exact ⟨t, by rw [write, hop, ht], hkept, by rw [Memory.books, hshelves, hb]⟩

/-- A store that keeps its file answers every question. -/
lemma ask_read {s : Chronicle Memory} (hs : s.now.Kept) {f : Shelves → α}
    {op : Memory → Except StoreError α × Memory} (hop : op s.now = s.now.read f) :
    ask op s = (.ok (f s.now.shelves), s) := by
  have hread : s.now.read f = (.ok (f s.now.shelves), s.now) := if_pos hs.serving.online
  rw [ask, hop, hread]

variable {s : Chronicle Memory} (hs : s.now.Kept)
include hs

/-- Asking for a member answers what the set says. -/
lemma isMember_kept (scope : String) (n : PullNumber) :
    Store.isMember scope n s = (.ok (s.now.books.member scope n), s) :=
  ask_read hs rfl

/-- Reading a list answers the list. -/
lemma readRange_kept (key : String) :
    Store.readRange key none s = (.ok (s.now.books.list key), s) :=
  ask_read hs rfl

/-- Putting a pull request into a set is one write. -/
lemma addMember_kept (scope : String) (n : PullNumber) :
    ∃ t : Memory, Store.addMember scope n s = (.ok (), ⟨s.past ++ [s.now], t⟩) ∧ t.Kept ∧
      t.books = s.now.books.addMember scope n :=
  write_replace hs (hs.named.addMember scope n) rfl (Shelves.books_addMember ..)

/-- Taking a pull request out of a set is one write. -/
lemma removeMember_kept (scope : String) (n : PullNumber) :
    ∃ t : Memory, Store.removeMember scope n s = (.ok (), ⟨s.past ++ [s.now], t⟩) ∧ t.Kept ∧
      t.books = s.now.books.removeMember scope n :=
  write_replace hs (hs.named.removeMember scope n) rfl (Shelves.books_removeMember ..)

/-- Putting a booking at the end of a list is one write. -/
lemma append_kept (key : String) {b : Booking} (hb : b.bookedAt.IsNamed) :
    ∃ t : Memory, Store.append key b s =
        (.ok ((s.now.books.list key).length + 1), ⟨s.past ++ [s.now], t⟩) ∧ t.Kept ∧
      t.books = s.now.books.append key b :=
  write_replace hs (hs.named.append key hb) rfl (Shelves.books_append ..)

/-- Taking a booking out of a list is one write. -/
lemma removeFirst_kept (key : String) (n : PullNumber) :
    ∃ t : Memory, Store.removeFirst key n s =
        (.ok ((s.now.books.list key).any (·.number == n)), ⟨s.past ++ [s.now], t⟩) ∧ t.Kept ∧
      t.books = s.now.books.removeFirst key n :=
  write_replace hs (hs.named.removeFirst key n) rfl (Shelves.books_removeFirst ..)

end Chronicle

/-! ## What a request writes -/

namespace Desk

/-- The pull request that a request is about. -/
def Request.key : Request → PullKey
  | .book l b => ⟨l.repo, b.number⟩
  | .unbook l n _ => ⟨l.repo, n⟩

/-- What a request brings into the store can be named. -/
def Request.IsNamed : Request → Prop
  | .book _ b => b.bookedAt.IsNamed
  | .unbook _ _ _ => True

/-- A request finds what it needs to change the books. -/
def Request.TakesEffect : Request → Books → Prop
  | .book l b, k => k.member l.repo.storeKey b.number = false
  | .unbook l n _, k => k.Lists l.storeKey n

/-- The books after the first write of a request. -/
def Request.half : Request → Books → Books
  | .book l b, k => k.addMember l.repo.storeKey b.number
  | .unbook l n _, k => k.removeFirst l.storeKey n

/-- The books after both writes of a request. -/
def Request.full : Request → Books → Books
  | .book l b, k => (k.addMember l.repo.storeKey b.number).append l.storeKey b
  | .unbook l n _, k => (k.removeFirst l.storeKey n).removeMember l.repo.storeKey n

/-- Over a store that keeps its file, a booking writes nothing or twice. -/
lemma book_chronicle {s : Chronicle Memory} (hs : s.now.Kept) (l : Lane) {b : Booking}
    (hb : b.bookedAt.IsNamed) :
    (book l b s).store = s ∨
      ∃ t u : Memory, (book l b s).store = ⟨s.past ++ [s.now, t], u⟩ ∧ t.Kept ∧ u.Kept ∧
        s.now.books.member l.repo.storeKey b.number = false ∧
        t.books = s.now.books.addMember l.repo.storeKey b.number ∧
        u.books = (s.now.books.addMember l.repo.storeKey b.number).append l.storeKey b := by
  unfold book
  cases b.flaw? with
  | some reason => exact .inl rfl
  | none =>
    rw [Chronicle.isMember_kept hs]
    cases hm : s.now.books.member l.repo.storeKey b.number with
    | true => exact .inl rfl
    | false =>
      obtain ⟨t, hadd, ht, hbooks⟩ := Chronicle.addMember_kept hs l.repo.storeKey b.number
      obtain ⟨u, happend, hu, hbooks'⟩ :=
        Chronicle.append_kept (s := ⟨s.past ++ [s.now], t⟩) ht l.storeKey hb
      refine .inr ⟨t, u, ?_, ht, hu, rfl, hbooks, hbooks ▸ hbooks'⟩
      simp [hadd, happend]

/-- Over a store that keeps its file, a removal writes nothing or twice. -/
lemma unbook_chronicle {s : Chronicle Memory} (hs : s.now.Kept) (l : Lane) (n : PullNumber)
    (closed : Bool) :
    (unbook l n closed s).store = s ∨
      ∃ t u : Memory, (unbook l n closed s).store = ⟨s.past ++ [s.now, t], u⟩ ∧ t.Kept ∧ u.Kept ∧
        s.now.books.Lists l.storeKey n ∧
        t.books = s.now.books.removeFirst l.storeKey n ∧
        u.books = (s.now.books.removeFirst l.storeKey n).removeMember l.repo.storeKey n := by
  unfold unbook
  rw [Chronicle.readRange_kept hs]
  cases hf : (s.now.books.list l.storeKey).find? (·.number == n) with
  | none => simp [hf, Turn.done]
  | some b =>
    have hlisted : s.now.books.Lists l.storeKey n := Books.lists_of_find? hf
    obtain ⟨t, hfirst, ht, hbooks⟩ := Chronicle.removeFirst_kept hs l.storeKey n
    obtain ⟨u, hmember, hu, hbooks'⟩ :=
      Chronicle.removeMember_kept (s := ⟨s.past ++ [s.now], t⟩) ht l.repo.storeKey n
    refine .inr ⟨t, u, ?_, ht, hu, hlisted, hbooks, hbooks ▸ hbooks'⟩
    rw [Books.lists_iff_any.1 hlisted] at hfirst
    simp [hf, hfirst, hmember]

/-- Over a store that keeps its file, a request writes nothing or twice. -/
theorem serve_chronicle {s : Chronicle Memory} (hs : s.now.Kept) {r : Request} (hr : r.IsNamed) :
    (serve r s).store = s ∨
      ∃ t u : Memory, (serve r s).store = ⟨s.past ++ [s.now, t], u⟩ ∧ t.Kept ∧ u.Kept ∧
        r.TakesEffect s.now.books ∧ t.books = r.half s.now.books ∧
        u.books = r.full s.now.books := by
  cases r with
  | book l b => exact book_chronicle hs l hr
  | unbook l n closed => exact unbook_chronicle hs l n closed

end Desk

/-! ## Lists and sets in step but for some -/

namespace Books

/-- A pull request is in some lane of a repository. -/
def Holds (k : Books) (r : Repo) (n : PullNumber) : Prop :=
  ∃ branch, k.Lists (r.lane branch).storeKey n

/-- The sets hold what the lanes hold, and besides exactly the pull requests of a kind, none of
which is in a lane. -/
structure InStepBut (k : Books) (P : PullKey → Prop) : Prop where
  member_of_holds : ∀ r : Repo, r.Colonless → ∀ n, k.Holds r n → k.member r.storeKey n = true
  stray_iff : ∀ r : Repo, r.Colonless → ∀ n,
    k.member r.storeKey n = true ∧ ¬ k.Holds r n ↔ P ⟨r, n⟩

/-- Books in step are in step but for nothing. -/
lemma InStep.inStepBut {k : Books} (h : k.InStep) {P : PullKey → Prop} (hP : ∀ p, ¬ P p) :
    k.InStepBut P where
  member_of_holds r hr n hn := (h.member_iff r hr n).2 hn
  stray_iff r hr n := by
    constructor
    · rintro ⟨hm, hn⟩
      exact absurd ((h.member_iff r hr n).1 hm) hn
    · intro hp
      exact absurd hp (hP _)

/-- In step but for the same is in step but for the same. -/
lemma InStepBut.congr {k : Books} {P Q : PullKey → Prop} (h : k.InStepBut P)
    (hPQ : ∀ p, P p ↔ Q p) : k.InStepBut Q :=
  ⟨h.member_of_holds, fun r hr n => (h.stray_iff r hr n).trans (hPQ _)⟩

/-- Who is in a lane of a repository after a booking was taken out of a lane. -/
lemma InStep.holds_removeFirst {k : Books} (h : k.InStep) {l : Lane} {n : PullNumber}
    (hl : l.repo.Colonless) (hn : k.Lists l.storeKey n) {r : Repo} (hr : r.Colonless)
    (m : PullNumber) :
    (k.removeFirst l.storeKey n).Holds r m ↔ k.Holds r m ∧ ¬ (r = l.repo ∧ m = n) := by
  constructor
  · rintro ⟨branch, hm⟩
    obtain ⟨hin, hne⟩ := (h.lists_removeFirst hl hr m).1 hm
    refine ⟨⟨branch, hin⟩, ?_⟩
    rintro ⟨rfl, rfl⟩
    exact hne ⟨h.one_lane _ _ hr rfl m hin hn, rfl⟩
  · rintro ⟨⟨branch, hin⟩, hne⟩
    refine ⟨branch, (h.lists_removeFirst hl hr m).2 ⟨hin, ?_⟩⟩
    rintro ⟨hlane, hm⟩
    exact hne ⟨congrArg Lane.repo hlane, hm⟩

/-- A pull request that is in no lane strays when it is put into the set. -/
lemma InStep.addMember {k : Books} (h : k.InStep) {r : Repo} {n : PullNumber} (hr : r.Colonless)
    (hn : k.member r.storeKey n = false) :
    (k.addMember r.storeKey n).InStepBut fun p => p = ⟨r, n⟩ := by
  have hmember : ∀ r' : Repo, r'.Colonless → ∀ m,
      (k.addMember r.storeKey n).member r'.storeKey m = true ↔
        k.Holds r' m ∨ r' = r ∧ m = n := by
    intro r' hr' m
    rw [Holds, ← h.member_iff r' hr' m, Books.addMember]
    simp only [Repo.storeKey_eq_iff hr' hr]
    split_ifs with he
    · simp [he]
    · simp [he]
  constructor
  · intro r' hr' m hm
    exact (hmember r' hr' m).2 (.inl hm)
  · intro r' hr' m
    rw [hmember r' hr' m, PullKey.mk.injEq]
    constructor
    · rintro ⟨hin | heq, hout⟩
      · exact absurd hin hout
      · exact heq
    · rintro ⟨rfl, rfl⟩
      refine ⟨.inr ⟨rfl, rfl⟩, ?_⟩
      rintro ⟨branch, hin⟩
      exact h.not_lists (l := r'.lane branch) hr hn hin

/-- A pull request strays when it is taken out of its lane. It is in no other. -/
lemma InStep.removeFirst {k : Books} (h : k.InStep) {l : Lane} {n : PullNumber}
    (hl : l.repo.Colonless) (hn : k.Lists l.storeKey n) :
    (k.removeFirst l.storeKey n).InStepBut fun p => p = ⟨l.repo, n⟩ := by
  have hmember : ∀ r : Repo, r.Colonless → ∀ m,
      (k.removeFirst l.storeKey n).member r.storeKey m = true ↔ k.Holds r m :=
    fun r hr m => h.member_iff r hr m
  constructor
  · intro r hr m hm
    exact (hmember r hr m).2 ((h.holds_removeFirst hl hn hr m).1 hm).1
  · intro r hr m
    rw [hmember r hr m, h.holds_removeFirst hl hn hr m, PullKey.mk.injEq]
    constructor
    · rintro ⟨hin, hout⟩
      by_contra hne
      exact hout ⟨hin, hne⟩
    · rintro ⟨rfl, rfl⟩
      exact ⟨⟨l.branch, hn⟩, fun hin => hin.2 ⟨rfl, rfl⟩⟩

end Books

namespace Desk

variable {k : Books} {r : Request}

/-- Both writes of a request together keep the books in step. -/
lemma Request.TakesEffect.full (h : r.TakesEffect k) (hk : k.InStep)
    (hr : r.lane.repo.Colonless) : (r.full k).InStep := by
  cases r with
  | book l b => exact hk.book hr h
  | unbook l n closed => exact hk.unbook hr h

/-- After the first write of a request the books are in step but for its pull request. -/
lemma Request.TakesEffect.half (h : r.TakesEffect k) (hk : k.InStep)
    (hr : r.lane.repo.Colonless) : (r.half k).InStepBut fun p => p = r.key := by
  cases r with
  | book l b => exact hk.addMember hr h
  | unbook l n closed => exact hk.removeFirst hr h

end Desk

/-! ## Runs -/

namespace Memory

/-- The store at another time, which its next writes are stamped with. -/
def setClock (clock : Time.Timestamp) (m : Memory) : Memory :=
  { m with backing := m.backing.map fun b => { b with clock } }

/-- What a store finds in its file does not depend on the time. -/
lemma load_setClock {b : Backing} {m : Memory} (h : load b = .ok m) (clock : Time.Timestamp) :
    load { b with clock } = .ok (m.setClock clock) := by
  have hsame : ({ b with clock } : Backing).load Wire.readStoreSnapshot StoreSnapshot.version =
      b.load Wire.readStoreSnapshot StoreSnapshot.version := rfl
  rw [load] at h ⊢
  rw [hsame]
  split at h
  · cases h
  · cases h
    rfl
  · cases h
    rfl

/-- A store keeps its file as time passes. -/
lemma Kept.setClock {m : Memory} (h : m.Kept) {clock : Time.Timestamp} (hclock : clock.IsNamed) :
    (m.setClock clock).Kept := by
  obtain ⟨b, hb, hw, -⟩ := h.backed
  have hbacking : (m.setClock clock).backing = some { b with clock } := by
    rw [Memory.setClock, hb]
    rfl
  have hload := h.reload
  rw [Memory.reload, hb] at hload
  refine ⟨?_, h.named, _, hbacking, hw, hclock⟩
  rw [Memory.reload, hbacking]
  exact load_setClock hload clock

end Memory

namespace Desk

/-- A request and the time that it is made at. -/
structure Call where
  time : Time.Timestamp
  request : Request

/-- A call is about a repository without colons, and its times are such as clocks tell: their days
can be named. -/
structure Call.Sound (c : Call) : Prop where
  colonless : c.request.lane.repo.Colonless
  time : c.time.IsNamed
  request : c.request.IsNamed

/-- A store after a call. -/
def call (s : Chronicle Memory) (c : Call) : Chronicle Memory :=
  (serve c.request { s with now := s.now.setClock c.time }).store

/-- A store after calls, one after the other. -/
def run (calls : List Call) (s : Chronicle Memory) : Chronicle Memory :=
  calls.foldl call s

/-- A number of writes ends between the first and the last write of a call. -/
def Inside (calls : List Call) (s : Chronicle Memory) (writes : Nat) (c : Call) : Prop :=
  ∃ before after, calls = before ++ c :: after ∧ (run before s).past.length < writes ∧
    writes < (run (before ++ [c]) s).past.length

/-- Inside a run is inside its first call or inside the rest. -/
lemma inside_cons {c d : Call} {calls : List Call} {s : Chronicle Memory} {writes : Nat} :
    Inside (c :: calls) s writes d ↔
      d = c ∧ s.past.length < writes ∧ writes < (call s c).past.length ∨
        Inside calls (call s c) writes d := by
  constructor
  · rintro ⟨before, after, he, hlt, hgt⟩
    cases before with
    | nil =>
      cases he
      exact .inl ⟨rfl, hlt, hgt⟩
    | cons x before =>
      cases he
      exact .inr ⟨before, after, rfl, hlt, hgt⟩
  · rintro (⟨rfl, hlt, hgt⟩ | ⟨before, after, rfl, hlt, hgt⟩)
    · exact ⟨[], calls, rfl, hlt, hgt⟩
    · exact ⟨c :: before, after, rfl, hlt, hgt⟩

/-- What a store is before and after each call of a run. -/
structure Good (m : Memory) : Prop where
  kept : m.Kept
  inStep : m.books.InStep

/-- A call writes nothing or twice, and the books are in step before and after it and in step but
for its pull request in between. -/
lemma call_cases {s : Chronicle Memory} (hs : Good s.now) {c : Call} (hc : c.Sound) :
    (∃ m : Memory, call s c = { s with now := m } ∧ Good m) ∨
      ∃ m t u : Memory, call s c = ⟨s.past ++ [m, t], u⟩ ∧ Good m ∧ Good u ∧ t.Kept ∧
        t.books.InStepBut fun p => p = c.request.key := by
  have hm : Good (s.now.setClock c.time) := ⟨hs.kept.setClock hc.time, hs.inStep⟩
  rcases serve_chronicle (s := { s with now := s.now.setClock c.time }) hm.kept hc.request with
    h | ⟨t, u, h, ht, hu, heffect, hhalf, hfull⟩
  · exact .inl ⟨_, h, hm⟩
  · refine .inr ⟨_, t, u, h, hm, ⟨hu, ?_⟩, ht, ?_⟩
    · rw [hfull]
      exact heffect.full hm.inStep hc.colonless
    · rw [hhalf]
      exact heffect.half hm.inStep hc.colonless

/-- A run only adds to what was written before. -/
lemma exists_past_run {calls : List Call} (hc : ∀ c ∈ calls, c.Sound) {s : Chronicle Memory}
    (hs : Good s.now) : ∃ later, (run calls s).past = s.past ++ later := by
  induction calls generalizing s with
  | nil => exact ⟨[], by simp [run]⟩
  | cons c calls ih =>
    obtain ⟨hc, hrest⟩ := List.forall_mem_cons.1 hc
    rcases call_cases hs hc with ⟨m, h, hm⟩ | ⟨m, t, u, h, -, hu, -⟩
    · obtain ⟨later, hlater⟩ := ih hrest (s := call s c) (by rw [h]; exact hm)
      exact ⟨later, by rw [run, List.foldl_cons, ← run, hlater, h]⟩
    · obtain ⟨later, hlater⟩ := ih hrest (s := call s c) (by rw [h]; exact hu)
      exact ⟨[m, t] ++ later, by rw [run, List.foldl_cons, ← run, hlater, h, List.append_assoc]⟩

/-- Inside a run is behind what was written before. -/
lemma lt_of_inside {calls : List Call} (hc : ∀ c ∈ calls, c.Sound) {s : Chronicle Memory}
    (hs : Good s.now) {writes : Nat} {c : Call} (h : Inside calls s writes c) :
    s.past.length < writes := by
  obtain ⟨before, after, rfl, hlt, -⟩ := h
  obtain ⟨later, hlater⟩ := exists_past_run (fun d hd => hc d (List.mem_append_left _ hd)) hs
  rw [hlater, List.length_append] at hlt
  omega

/-- A state of a run is one that the store found, or one of later. -/
lemma getElem?_states_run {calls : List Call} (hc : ∀ c ∈ calls, c.Sound) {s : Chronicle Memory}
    (hs : Good s.now) {writes : Nat} (h : writes < s.past.length) :
    (run calls s).states[writes]? = s.past[writes]? := by
  obtain ⟨later, hlater⟩ := exists_past_run hc hs
  rw [Chronicle.states, hlater, List.append_assoc, List.getElem?_append_left h]

/-- The states that a call adds which writes twice: one in step, and one in step but for the pull
request of the call. -/
lemma states_of_call {calls : List Call} (hc : ∀ c ∈ calls, c.Sound) {s : Chronicle Memory}
    {c : Call} {m₁ m₂ m₃ : Memory} (h : call s c = ⟨s.past ++ [m₁, m₂], m₃⟩) (h₁ : Good m₁)
    (h₃ : Good m₃) (h₂ : m₂.Kept) (hbut : m₂.books.InStepBut fun p => p = c.request.key)
    {writes : Nat} (hge : s.past.length ≤ writes) (hlt : writes < s.past.length + 2) {m : Memory}
    (hm : (run calls (call s c)).states[writes]? = some m) :
    m.Kept ∧ m.books.InStepBut fun p =>
      ∃ d, Inside (c :: calls) s writes d ∧ d.request.key = p := by
  have hnow : Good (call s c).now := by rw [h]; exact h₃
  have hpast : (call s c).past.length = s.past.length + 2 := by rw [h]; simp
  have hrest : ∀ d, ¬ Inside calls (call s c) writes d := by
    intro d hd
    have := lt_of_inside hc hnow hd
    omega
  rw [getElem?_states_run hc hnow (by omega), h] at hm
  obtain hfirst | hsecond : writes = s.past.length ∨ writes = s.past.length + 1 := by omega
  · have hm : m = m₁ := by simpa [hfirst] using hm.symm
    subst hm
    refine ⟨h₁.kept, h₁.inStep.inStepBut ?_⟩
    rintro p ⟨d, hd, -⟩
    rcases inside_cons.1 hd with ⟨-, hlt, -⟩ | hd
    · omega
    · exact hrest d hd
  · have hm : m = m₂ := by simpa [hsecond] using hm.symm
    subst hm
    refine ⟨h₂, hbut.congr fun p => ?_⟩
    constructor
    · rintro rfl
      exact ⟨c, inside_cons.2 (.inl ⟨rfl, by omega, by omega⟩), rfl⟩
    · rintro ⟨d, hd, rfl⟩
      rcases inside_cons.1 hd with ⟨rfl, -⟩ | hd
      · rfl
      · exact absurd hd (hrest d)

/-- In every state of a run the file holds the store, and lists and sets are in step but for the
pull request of the call that the state lies inside of.

**Proof sketch.** By induction on the calls. What a call adds that writes twice is known, and what
follows it is the rest of the run. -/
theorem states_run {calls : List Call} (hc : ∀ c ∈ calls, c.Sound) {s : Chronicle Memory}
    (hs : Good s.now) {writes : Nat} (hw : s.past.length ≤ writes) {m : Memory}
    (hm : (run calls s).states[writes]? = some m) :
    m.Kept ∧ m.books.InStepBut fun p => ∃ c, Inside calls s writes c ∧ c.request.key = p := by
  induction calls generalizing s with
  | nil =>
    have hnow : writes = s.past.length := by
      have hlt := (List.getElem?_eq_some_iff.1 hm).1
      simp only [run, List.foldl_nil, Chronicle.states, List.length_append,
        List.length_singleton] at hlt
      omega
    have hm : m = s.now := by
      simpa [run, Chronicle.states, hnow] using hm.symm
    subst hm
    refine ⟨hs.kept, hs.inStep.inStepBut ?_⟩
    rintro p ⟨c, ⟨before, after, he, -⟩, -⟩
    simp at he
  | cons c calls ih =>
    obtain ⟨hc, hrest⟩ := List.forall_mem_cons.1 hc
    rw [run, List.foldl_cons, ← run] at hm
    rcases call_cases hs hc with ⟨m', h, hm'⟩ | ⟨m₁, m₂, m₃, h, h₁, h₃, h₂, hbut⟩
    · have hnow : Good (call s c).now := by rw [h]; exact hm'
      have hpast : (call s c).past = s.past := by rw [h]
      obtain ⟨hkept, hin⟩ := ih hrest hnow (by rw [hpast]; exact hw) hm
      refine ⟨hkept, hin.congr fun p => exists_congr fun d => and_congr_left fun _ => ?_⟩
      rw [inside_cons, hpast]
      exact (or_iff_right (by omega)).symm
    · by_cases hlt : writes < s.past.length + 2
      · exact states_of_call hrest h h₁ h₃ h₂ hbut hw hlt hm
      · have hnow : Good (call s c).now := by rw [h]; exact h₃
        have hpast : (call s c).past.length = s.past.length + 2 := by rw [h]; simp
        obtain ⟨hkept, hin⟩ := ih hrest hnow (by omega) hm
        refine ⟨hkept, hin.congr fun p => exists_congr fun d => and_congr_left fun _ => ?_⟩
        rw [inside_cons]
        exact (or_iff_right (by omega)).symm

/-- A process books and removes over a store with a file, from a path without one that can be
written to, and stops after any number of writes. The store that is opened on the file again has
every pull request in the set that is in a lane. The only one that is in the set and in no lane is
that of the call which the process stopped inside of, between two writes, if it did. Every other
pull request that is in no lane can be booked again; that one is refused as a duplicate. -/
theorem reopen_after_stop {p : File.Path} (hp : (File.Cell.absent p).isWritable = true)
    {clock : Time.Timestamp} (hclock : clock.IsNamed) {m₀ : Memory}
    (h₀ : Memory.load ⟨File.Cell.absent p, clock⟩ = .ok m₀) {calls : List Call}
    (hc : ∀ c ∈ calls, c.Sound) {writes : Nat} {m : Memory}
    (hm : (run calls ⟨[], m₀⟩).states[writes]? = some m) :
    ∃ t, m.reload = .ok t ∧
      (∀ r : Repo, r.Colonless → ∀ n, t.books.Holds r n →
        t.books.member r.storeKey n = true) ∧
      (∀ r : Repo, r.Colonless → ∀ n,
        t.books.member r.storeKey n = true ∧ ¬ t.books.Holds r n ↔
          ∃ c, Inside calls ⟨[], m₀⟩ writes c ∧ c.request.key = ⟨r, n⟩) ∧
      ∀ l : Lane, l.repo.Colonless → ∀ b, b.flaw? = none → ¬ t.books.Holds l.repo b.number →
        ((∃ c, Inside calls ⟨[], m₀⟩ writes c ∧ c.request.key = ⟨l.repo, b.number⟩) →
          (book l b t).answer = .ok .duplicate) ∧
        ((¬ ∃ c, Inside calls ⟨[], m₀⟩ writes c ∧ c.request.key = ⟨l.repo, b.number⟩) →
          (book l b t).answer = .ok (.added (t.books.list l.storeKey).length)) := by
  obtain ⟨hempty, hkept₀⟩ := Memory.kept_of_load hp hclock h₀
  have hinStep₀ : m₀.books.InStep := by
    rw [Memory.books, hempty, Shelves.books_empty]
    exact Books.inStep_empty
  obtain ⟨hkept, hbut⟩ := states_run hc (s := ⟨[], m₀⟩) ⟨hkept₀, hinStep₀⟩ (Nat.zero_le _) hm
  refine ⟨m, hkept.reload, hbut.member_of_holds, hbut.stray_iff, ?_⟩
  intro l hl b hb hn
  rw [book_of_works (A := Memory.atomic Memory.keeps_serving) hkept.serving
    (Memory.works hkept.serving) l hb]
  constructor
  · intro hin
    have hmember : m.books.member l.repo.storeKey b.number = true :=
      ((hbut.stray_iff l.repo hl b.number).2 hin).1
    exact congrArg Except.ok (if_pos hmember)
  · intro hout
    have hmember : ¬ m.books.member l.repo.storeKey b.number = true := fun hmember =>
      hout ((hbut.stray_iff l.repo hl b.number).1 ⟨hmember, hn⟩)
    exact congrArg Except.ok (if_neg hmember)

/-- A booking, and the removal of the pull request a minute later. -/
def soleCalls : List Call :=
  [⟨Time.Timestamp.epoch, .book soleLane soleBooking⟩,
    ⟨⟨60, 0, by decide⟩, .unbook soleLane soleBooking.number false⟩]

/-- Both calls are about a repository without colons, at times that can be named. -/
lemma sound_soleCalls : ∀ c ∈ soleCalls, c.Sound := by
  have hepoch : Time.Timestamp.epoch.IsNamed := by decide
  intro c hc
  rcases List.mem_cons.1 hc with rfl | hc
  · exact ⟨by decide, hepoch, hepoch⟩
  · rw [List.mem_singleton.1 hc]
    exact ⟨by decide, by decide, trivial⟩

/-- A new store on a path without a file. -/
def newStore : Memory := ⟨Shelves.empty, some ⟨File.Cell.absent, Time.Timestamp.epoch⟩, true⟩

/-- The new store is what is found on the path. -/
lemma load_newStore : Memory.load ⟨File.Cell.absent, Time.Timestamp.epoch⟩ = .ok newStore := rfl

/-- The path can be written to. -/
lemma writable_plainPath : File.Cell.absent.isWritable = true := by decide +kernel

/-- The process stops inside of the removal. The pull request is found in the set and in no lane,
and it cannot be booked again. -/
theorem reopen_after_stop_removing : (∀ c ∈ soleCalls, c.Sound) ∧
    ∃ m, (run soleCalls ⟨[], newStore⟩).states[3]? = some m ∧ ∃ t, m.reload = .ok t ∧
      t.books.member soleLane.repo.storeKey ⟨7⟩ = true ∧ ¬ t.books.Holds soleLane.repo ⟨7⟩ ∧
      (book soleLane soleBooking t).answer = .ok .duplicate := by
  refine ⟨sound_soleCalls, ?_⟩
  obtain ⟨m, hm⟩ : ∃ m, (run soleCalls ⟨[], newStore⟩).states[3]? = some m :=
    Option.isSome_iff_exists.1 (by decide +kernel)
  have hin : ∃ c, Inside soleCalls ⟨[], newStore⟩ 3 c ∧
      c.request.key = ⟨soleLane.repo, soleBooking.number⟩ :=
    ⟨_, ⟨[_], [], rfl, by decide +kernel, by decide +kernel⟩, rfl⟩
  obtain ⟨t, ht, -, hstray, hbook⟩ :=
    reopen_after_stop writable_plainPath (by decide) load_newStore sound_soleCalls hm
  obtain ⟨hmember, hout⟩ := (hstray soleLane.repo (by decide) ⟨7⟩).2 hin
  exact ⟨m, hm, t, ht, hmember, hout,
    (hbook soleLane (by decide) soleBooking (by decide +kernel) hout).1 hin⟩

/-- The process stops inside of the booking, after its first write. What is opened again has the
pull request in the set and in no lane, and refuses to book it. -/
theorem not_inStep_after_stop : ∃ m t, (run soleCalls ⟨[], newStore⟩).states[1]? = some m ∧
    m.reload = .ok t ∧ t.books.member soleLane.repo.storeKey ⟨7⟩ = true ∧
    (∀ branch, ¬ t.books.Lists (soleLane.repo.lane branch).storeKey ⟨7⟩) ∧
    (book soleLane soleBooking t).answer = .ok .duplicate := by
  have hnew : Good newStore := by
    refine ⟨(Memory.kept_of_load writable_plainPath (by decide) load_newStore).2, ?_⟩
    rw [Memory.books, newStore, Shelves.books_empty]
    exact Books.inStep_empty
  obtain ⟨m, hm⟩ : ∃ m, (run soleCalls ⟨[], newStore⟩).states[1]? = some m :=
    Option.isSome_iff_exists.1 (by decide +kernel)
  obtain ⟨hkept, hbut⟩ := states_run sound_soleCalls (s := ⟨[], newStore⟩) hnew
    (Nat.zero_le 1) hm
  have hin : Inside soleCalls ⟨[], newStore⟩ 1 ⟨Time.Timestamp.epoch, .book soleLane soleBooking⟩ :=
    ⟨[], [_], rfl, by decide +kernel, by decide +kernel⟩
  obtain ⟨hmember, hout⟩ := (hbut.stray_iff soleLane.repo (by decide) ⟨7⟩).2 ⟨_, hin, rfl⟩
  have hbook := book_of_works (A := Memory.atomic Memory.keeps_serving) hkept.serving
    (Memory.works hkept.serving) soleLane (b := soleBooking) (by decide +kernel)
  exact ⟨m, m, hm, hkept.reload, hmember, not_exists.1 hout,
    hbook.trans (congrArg Except.ok (if_pos hmember))⟩

end Desk

end MergeTurn
