import MergeTurn.Proofs.Store.Books
import MergeTurn.Store.Faulty
import MergeTurn.Store.Memory

set_option autoImplicit false

/-!
# Stores whose calls take full effect or none

Everything that is said of the desk over "any store" is said of stores that keep to one rule: a
call of a primitive answers what the books say and changes them as its name says, or it fails and
leaves them as they were. Which calls fail is left open.

## Main definitions

* `MergeTurn.CallEnds` — how a call of a primitive may end.
* `MergeTurn.AtomicStore` — a store whose calls end in one of these two ways.
* `MergeTurn.Store.Works` — no call fails from now on.
* `MergeTurn.Memory.atomic`, `MergeTurn.Faulty.atomic` — stores in memory keep to the rule, and so
  does a store behind a plan of failures.

## Main results

* `MergeTurn.Memory.works` — a store in memory works when it is online and its file can be written.
* `MergeTurn.Faulty.works` — a store behind a plan works when nothing is left of the plan.

## Design

A store may have states that it never gets into, so the rule is asked for only of the states that
`AtomicStore.sane` admits, and calls lead to no other. That a store works is said by a set of
states in which no call fails and which no call leaves.
-/

namespace MergeTurn

variable {σ α : Type}

/-- How a call of a primitive may end: with its answer and in full effect, or with an error and
without effect. -/
inductive CallEnds (sane : σ → Prop) (books : σ → Books) (s : σ) (answer : α) (after : Books) :
    Except StoreError α × σ → Prop
  | done {t : σ} (ht : sane t) (h : books t = after) :
    CallEnds sane books s answer after (.ok answer, t)
  | failed {e : StoreError} {t : σ} (ht : sane t) (h : books t = books s) :
    CallEnds sane books s answer after (.error e, t)

section CallEnds

variable {sane : σ → Prop} {books : σ → Books} {s t : σ} {answer : α} {after : Books}

/-- A call that answered took full effect. -/
lemma CallEnds.of_ok {a : α} (h : CallEnds sane books s answer after (.ok a, t)) :
    sane t ∧ answer = a ∧ books t = after := by
  cases h with
  | done ht hbooks => exact ⟨ht, rfl, hbooks⟩

/-- A call that failed had no effect. -/
lemma CallEnds.of_error {e : StoreError} (h : CallEnds sane books s answer after (.error e, t)) :
    sane t ∧ books t = books s := by
  cases h with
  | failed ht hbooks => exact ⟨ht, hbooks⟩

end CallEnds

/-- A store whose calls take full effect or fail without effect. -/
structure AtomicStore (σ : Type) [Store σ] where
  /-- The states that the store can be in. -/
  sane : σ → Prop
  books : σ → Books
  isMember {s : σ} (hs : sane s) (scope : String) (n : PullNumber) :
    CallEnds sane books s ((books s).member scope n) (books s) (Store.isMember scope n s)
  addMember {s : σ} (hs : sane s) (scope : String) (n : PullNumber) :
    CallEnds sane books s () ((books s).addMember scope n) (Store.addMember scope n s)
  removeMember {s : σ} (hs : sane s) (scope : String) (n : PullNumber) :
    CallEnds sane books s () ((books s).removeMember scope n) (Store.removeMember scope n s)
  append {s : σ} (hs : sane s) (key : String) (b : Booking) :
    CallEnds sane books s (((books s).list key).length + 1) ((books s).append key b)
      (Store.append key b s)
  removeFirst {s : σ} (hs : sane s) (key : String) (n : PullNumber) :
    CallEnds sane books s (((books s).list key).any (·.number == n))
      ((books s).removeFirst key n) (Store.removeFirst key n s)
  readRange {s : σ} (hs : sane s) (key : String) (limit : Option Nat) :
    CallEnds sane books s ((books s).front key limit) (books s) (Store.readRange key limit s)
  length {s : σ} (hs : sane s) (key : String) :
    CallEnds sane books s ((books s).list key).length (books s) (Store.length key s)

/-- No call fails in these states, and none leads out of them. -/
structure Reliable [Store σ] (P : σ → Prop) : Prop where
  isMember {s : σ} (hs : P s) (scope : String) (n : PullNumber) :
    ∃ a t, Store.isMember scope n s = (.ok a, t) ∧ P t
  addMember {s : σ} (hs : P s) (scope : String) (n : PullNumber) :
    ∃ a t, Store.addMember scope n s = (.ok a, t) ∧ P t
  removeMember {s : σ} (hs : P s) (scope : String) (n : PullNumber) :
    ∃ a t, Store.removeMember scope n s = (.ok a, t) ∧ P t
  append {s : σ} (hs : P s) (key : String) (b : Booking) :
    ∃ a t, Store.append key b s = (.ok a, t) ∧ P t
  removeFirst {s : σ} (hs : P s) (key : String) (n : PullNumber) :
    ∃ a t, Store.removeFirst key n s = (.ok a, t) ∧ P t
  readRange {s : σ} (hs : P s) (key : String) (limit : Option Nat) :
    ∃ a t, Store.readRange key limit s = (.ok a, t) ∧ P t
  length {s : σ} (hs : P s) (key : String) :
    ∃ a t, Store.length key s = (.ok a, t) ∧ P t

/-- No call fails from now on. -/
def Store.Works [Store σ] (s : σ) : Prop :=
  ∃ P : σ → Prop, Reliable P ∧ P s

/-! ## Stores in memory -/

namespace Memory

/-- The file behind the store, if it has one, can be written. -/
def Writable (m : Memory) : Prop :=
  ∀ b, m.backing = some b → b.cell.isWritable = true

/-- The store can be reached, and its file, if it has one, can be written. -/
structure Serving (m : Memory) : Prop where
  online : m.online = true
  writable : m.Writable

/-- What the store holds. -/
def books (m : Memory) : Books := m.shelves.books

/-- A new store without a file can be written. -/
lemma writable_of_backing_none {m : Memory} (h : m.backing = none) : m.Writable := by
  intro b hb
  simp [h] at hb

section Replace

variable (answer : α) (s : Shelves) {m : Memory} {b : Backing}

/-- A store that cannot be reached changes nothing. -/
lemma replace_of_offline (h : ¬ m.online = true) : m.replace answer s = (.error offline, m) := by
  rw [replace, if_neg h]

/-- A store without a file changes. -/
lemma replace_of_backing_none (h : m.online = true) (hb : m.backing = none) :
    m.replace answer s = (.ok answer, { m with shelves := s }) := by
  rw [replace, if_pos h, hb]

/-- A store with a file changes if the file is written without a failure. -/
lemma replace_of_backing_some (h : m.online = true) (hb : m.backing = some b) :
    m.replace answer s =
      (if b.cell.isWritable then
        (.ok answer, ⟨s, some (b.save (document b.clock s)).2, m.online⟩)
      else (.error .file, { m with backing := some (b.save (document b.clock s)).2 })) := by
  have hdone := b.save_fst (document b.clock s)
  rw [replace, if_pos h, hb]
  dsimp only
  generalize b.save (document b.clock s) = saved at hdone ⊢
  obtain ⟨done, after⟩ := saved
  obtain rfl : done = b.cell.isWritable := hdone
  cases b.cell.isWritable <;> rfl

end Replace

/-- A change of the shelves is made as a whole or not at all. -/
lemma replace_cases (answer : α) (s : Shelves) (m : Memory) :
    (∃ t, m.replace answer s = (.ok answer, t) ∧ t.shelves = s ∧ t.online = m.online ∧
      t.Writable) ∨
    (∃ e t, m.replace answer s = (.error e, t) ∧ t.shelves = m.shelves ∧ t.online = m.online ∧
      (m.Writable → t.Writable) ∧ ¬ m.Serving) := by
  by_cases ho : m.online = true
  · cases hb : m.backing with
    | none =>
      rw [replace_of_backing_none answer s ho hb]
      exact .inl ⟨_, rfl, rfl, rfl, writable_of_backing_none hb⟩
    | some b =>
      rw [replace_of_backing_some answer s ho hb]
      by_cases hw : b.cell.isWritable = true
      · rw [if_pos hw]
        refine .inl ⟨_, rfl, rfl, rfl, fun c hc => ?_⟩
        cases hc
        exact (b.isWritable_save _).trans hw
      · rw [if_neg hw]
        exact .inr ⟨_, _, rfl, rfl, rfl, fun hm => absurd (hm b hb) hw,
          fun hm => hw (hm.writable b hb)⟩
  · rw [replace_of_offline answer s ho]
    exact .inr ⟨_, _, rfl, rfl, rfl, id, fun hm => ho hm.online⟩

/-- A property that no change of the shelves takes away. -/
def Keeps (P : Memory → Prop) : Prop :=
  ∀ {α : Type} (answer : α) (s : Shelves) {m : Memory}, P m → P (m.replace answer s).2

/-- A change of the shelves ends in full effect or in none. -/
lemma replace_ends {P : Memory → Prop} (hP : Keeps P) {answer : α} {s : Shelves} {m : Memory}
    (hm : P m) {after : Books} (h : s.books = after) :
    CallEnds P books m answer after (m.replace answer s) := by
  have ht := hP answer s hm
  rcases replace_cases answer s m with ⟨t, e, hs, -⟩ | ⟨err, t, e, hs, -⟩
  · rw [e] at ht ⊢
    exact .done ht (by rw [books, hs, h])
  · rw [e] at ht ⊢
    exact .failed ht (by rw [books, hs, books])

/-- Reading leaves the store as it is. -/
lemma read_ends {P : Memory → Prop} {f : Shelves → α} {answer : α} {m : Memory} (hm : P m)
    (h : f m.shelves = answer) : CallEnds P books m answer m.books (m.read f) := by
  unfold read
  split
  · rw [h]
    exact .done hm rfl
  · exact .failed hm rfl

/-- Stores in memory keep to the rule, in any states that changes of the shelves do not leave. -/
def atomic {P : Memory → Prop} (hP : Keeps P) : AtomicStore Memory where
  sane := P
  books := books
  isMember hm scope n := read_ends hm rfl
  addMember hm scope n := replace_ends hP hm (by simp [books])
  removeMember hm scope n := replace_ends hP hm (by simp [books])
  append hm key b := replace_ends hP hm (by simp [books])
  removeFirst hm key n := replace_ends hP hm (by simp [books])
  readRange hm key limit := read_ends hm (by simp [books])
  length hm key := read_ends hm rfl

/-- A store that serves goes on serving. -/
lemma keeps_serving : Keeps Serving := by
  intro α answer s m hm
  rcases replace_cases answer s m with ⟨t, e, -, ho, hw⟩ | ⟨err, t, -, -, -, -, hno⟩
  · rw [e]
    exact ⟨ho.trans hm.online, hw⟩
  · exact absurd hm hno

/-- A store that serves takes every change. -/
lemma Serving.replace {m : Memory} (h : m.Serving) (answer : α) (s : Shelves) :
    ∃ a t, m.replace answer s = (.ok a, t) ∧ t.Serving := by
  rcases replace_cases answer s m with ⟨t, ht, -, ho, hw⟩ | ⟨e, t, -, -, -, -, hno⟩
  · exact ⟨answer, t, ht, ho.trans h.online, hw⟩
  · exact absurd h hno

/-- A store that serves answers every question. -/
lemma Serving.read {m : Memory} (h : m.Serving) (f : Shelves → α) :
    ∃ a t, m.read f = (.ok a, t) ∧ t.Serving :=
  ⟨f m.shelves, m, by simp [Memory.read, h.online], h⟩

/-- No call of a store that serves fails. -/
lemma reliable_serving : Reliable Serving where
  isMember h _ _ := h.read _
  addMember h _ _ := h.replace _ _
  removeMember h _ _ := h.replace _ _
  append h _ _ := h.replace _ _
  removeFirst h _ _ := h.replace _ _
  readRange h _ _ := h.read _
  length h _ := h.read _

/-- A store in memory works when it is online and its file can be written. -/
lemma works {m : Memory} (h : m.Serving) : Store.Works m :=
  ⟨Serving, reliable_serving, h⟩

end Memory

/-! ## Stores behind a plan -/

namespace Faulty

/-- No removal is planned to be denied. A denied removal answers as if there were nothing to
remove, which is neither a failure nor the whole effect. -/
def Honest (s : Faulty σ) : Prop :=
  ∀ p, some StoreFault.denial ∉ s.fates p

/-- Using up a fate does not touch the store behind the plan. -/
@[simp] lemma inner_fate (p : Primitive) (s : Faulty σ) : (s.fate p).2.inner = s.inner := by
  unfold fate
  split <;> rfl

/-- What is left of a plan was planned. -/
lemma mem_fates_of_fate {p q : Primitive} {s : Faulty σ} {f : Option StoreFault}
    (h : f ∈ (s.fate p).2.fates q) : f ∈ s.fates q := by
  unfold fate at h
  split at h
  · exact h
  · next g rest hg =>
    by_cases hq : q = p
    · subst hq
      simp only [if_true] at h
      rw [hg]
      exact List.mem_cons_of_mem _ h
    · simpa [hq] using h

/-- An honest plan stays honest. -/
lemma Honest.fate {s : Faulty σ} (h : s.Honest) (p : Primitive) : (s.fate p).2.Honest :=
  fun q hq => h q (mem_fates_of_fate hq)

/-- The next fate was planned. -/
lemma mem_of_fate_eq_some {p : Primitive} {s : Faulty σ} {f : StoreFault}
    (h : (s.fate p).1 = some f) : some f ∈ s.fates p := by
  unfold Faulty.fate at h
  split at h
  · cases h
  · next g rest hg =>
    rw [hg, ← show g = some f from h]
    exact List.mem_cons_self

variable [Store σ]

/-- A call behind a plan ends like the call itself, or fails without reaching the store. -/
lemma call_ends (A : AtomicStore σ) {s : Faulty σ} {op : σ → Except StoreError α × σ} {answer : α}
    {after : Books} (hs : A.sane s.inner ∧ s.Honest)
    (h : CallEnds A.sane A.books s.inner answer after (op s.inner)) (p : Primitive) :
    CallEnds (fun t : Faulty σ => A.sane t.inner ∧ t.Honest) (fun t => A.books t.inner) s answer
      after (call p op s) := by
  have hh := hs.2.fate p
  simp only [call]
  split
  · exact .failed ⟨by simpa using hs.1, hh⟩ (by simp)
  · rw [inner_fate]
    generalize op s.inner = r at h ⊢
    cases h with
    | done ht hb => exact .done ⟨ht, hh⟩ hb
    | failed ht hb => exact .failed ⟨ht, hh⟩ hb

/-- A store behind an honest plan keeps to the rule if the store itself does. -/
def atomic (A : AtomicStore σ) : AtomicStore (Faulty σ) where
  sane s := A.sane s.inner ∧ s.Honest
  books s := A.books s.inner
  isMember hs scope n := call_ends A hs (A.isMember hs.1 scope n) _
  addMember hs scope n := call_ends A hs (A.addMember hs.1 scope n) _
  removeMember hs scope n := call_ends A hs (A.removeMember hs.1 scope n) _
  append hs key b := call_ends A hs (A.append hs.1 key b) _
  removeFirst {s} hs key n := by
    have hd : (s.fate .removeFirst).1 ≠ some .denial :=
      fun hd => hs.2 _ (mem_of_fate_eq_some hd)
    simp only [Store.removeFirst, if_neg hd]
    exact call_ends A hs (A.removeFirst hs.1 key n) _
  readRange hs key limit := call_ends A hs (A.readRange hs.1 key limit) _
  length hs key := call_ends A hs (A.length hs.1 key) _

/-- Nothing is left of the plan. -/
def Spent (s : Faulty σ) : Prop :=
  ∀ p, s.fates p = []

omit [Store σ] in
/-- When the plan is spent a call reaches the store. -/
lemma Spent.call {s : Faulty σ} (h : s.Spent) (p : Primitive) (op : σ → Except StoreError α × σ) :
    call p op s = ((op s.inner).1, { s with inner := (op s.inner).2 }) := by
  simp [Faulty.call, fate, h p]

omit [Store σ] in
/-- When the plan is spent a call succeeds if the store takes it. -/
lemma Spent.call_ok {s : Faulty σ} (h : s.Spent) {P : σ → Prop} {p : Primitive}
    {op : σ → Except StoreError α × σ} (hop : ∃ a t, op s.inner = (.ok a, t) ∧ P t) :
    ∃ a t, Faulty.call p op s = (.ok a, t) ∧ P t.inner ∧ t.Spent := by
  obtain ⟨a, t, e, ht⟩ := hop
  exact ⟨a, { s with inner := t }, by rw [h.call, e], ht, h⟩

/-- Behind a spent plan no call fails that the store itself takes. -/
lemma reliable_spent {P : σ → Prop} (h : Reliable P) :
    Reliable fun s : Faulty σ => P s.inner ∧ s.Spent where
  isMember hs scope n := hs.2.call_ok (h.isMember hs.1 scope n)
  addMember hs scope n := hs.2.call_ok (h.addMember hs.1 scope n)
  removeMember hs scope n := hs.2.call_ok (h.removeMember hs.1 scope n)
  append hs key b := hs.2.call_ok (h.append hs.1 key b)
  removeFirst {s} hs key n := by
    have hd : (s.fate .removeFirst).1 ≠ some .denial := by simp [fate, hs.2 .removeFirst]
    simp only [Store.removeFirst, if_neg hd]
    exact hs.2.call_ok (h.removeFirst hs.1 key n)
  readRange hs key limit := hs.2.call_ok (h.readRange hs.1 key limit)
  length hs key := hs.2.call_ok (h.length hs.1 key)

/-- A store behind a spent plan works if the store itself does. -/
lemma works {s : Faulty σ} (hs : s.Spent) (h : Store.Works s.inner) : Store.Works s := by
  obtain ⟨P, hP, hi⟩ := h
  exact ⟨_, reliable_spent hP, hi, hs⟩

end Faulty

end MergeTurn
