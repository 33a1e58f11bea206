import MergeTurn.Proofs.Store.Reload
import MergeTurn.Proofs.Wire.Named

set_option autoImplicit false

/-!
# A store and its file do not drift apart

A store that keeps a file writes each change to the file first, as a whole, and makes it in memory
only when all of that has succeeded. So the two say the same after every call, also after one whose
write failed before the new file was put in the place of the old one, and what is read in between
are the changes that were answered with success.

## Main definitions

* `MergeTurn.Change` — what a store can be asked to change, and what that does to its books.
* `MergeTurn.Circumstances` — what a store depends on besides what it holds.
* `MergeTurn.Fate`, `MergeTurn.Circumstances.fate` — how far a write gets.
* `MergeTurn.ChangeCall` — a change that is asked for in some circumstances.
* `MergeTurn.Memory.FileHolds` — what is read in the file behind a store.
* `MergeTurn.Memory.Mirrored` — the file behind a store holds what the store does.

## Main results

* `MergeTurn.Memory.FiledAt.attempt` — what comes of one attempt, by how far its write gets.
* `MergeTurn.Memory.FiledAt.after` — what comes of a sequence of them.
* `MergeTurn.Memory.memory_and_file_agree` — a store and its file after any attempts.
* `MergeTurn.Memory.drift_under_bare_name` — where the two do not agree.

## Design

Whether a write fails is a matter of the path and of the circumstances, which may be others at every
call. What comes of it depends on how far it gets: before the renaming the file is what it was, and
after it the file has the change although the call fails. The directory is synced after the
renaming, so a disk that cannot do that leaves the file ahead of the store, and so does a path that
is nothing but a name, under which no directory can be opened.
-/

namespace MergeTurn

/-! ## Changes -/

/-- A change that a store can be asked for. -/
inductive Change where
  | addMember (scope : String) (n : PullNumber)
  | removeMember (scope : String) (n : PullNumber)
  | append (key : String) (b : Booking)
  | removeFirst (key : String) (n : PullNumber)

namespace Change

/-- What a change is answered with: nothing, the new length of the list, or whether there was a
booking to remove. -/
abbrev Answer : Change → Type
  | .addMember _ _ => Unit
  | .removeMember _ _ => Unit
  | .append _ _ => Nat
  | .removeFirst _ _ => Bool

/-- The call of a store for a change. -/
def ask {σ : Type} [Store σ] : (c : Change) → σ → Except StoreError c.Answer × σ
  | .addMember scope n => Store.addMember scope n
  | .removeMember scope n => Store.removeMember scope n
  | .append key b => Store.append key b
  | .removeFirst key n => Store.removeFirst key n

/-- The answer that a change should have, by the books before it. -/
def answer : (c : Change) → Books → c.Answer
  | .addMember _ _, _ => ()
  | .removeMember _ _, _ => ()
  | .append key _, k => (k.list key).length + 1
  | .removeFirst key n, k => (k.list key).any (·.number == n)

/-- The books after a change. -/
def books : Change → Books → Books
  | .addMember scope n => Books.addMember scope n
  | .removeMember scope n => Books.removeMember scope n
  | .append key b => Books.append key b
  | .removeFirst key n => Books.removeFirst key n

/-- The shelves after a change. -/
def shelves : Change → Shelves → Shelves
  | .addMember scope n => Shelves.addMember scope n
  | .removeMember scope n => Shelves.removeMember scope n
  | .append key b => Shelves.append key b
  | .removeFirst key n => Shelves.removeFirst key n

/-- What a change brings into a store can be named. -/
def IsNamed : Change → Prop
  | .append _ b => b.bookedAt.IsNamed
  | _ => True

/-- A store in memory puts the shelves after a change in the place of those before it. -/
lemma ask_memory (c : Change) (m : Memory) :
    c.ask m = m.replace (c.answer m.books) (c.shelves m.shelves) := by
  cases c <;> rfl

/-- The books change as the shelves do. -/
lemma books_shelves (c : Change) (s : Shelves) : (c.shelves s).books = c.books s.books := by
  cases c <;> simp [shelves, books]

/-- Shelves hold nothing that cannot be named if nothing such is brought to them. -/
lemma IsNamed.shelves {c : Change} (hc : c.IsNamed) {s : Shelves} (hs : s.AllNamed) :
    (c.shelves s).AllNamed := by
  cases c with
  | addMember scope n => exact hs.addMember scope n
  | removeMember scope n => exact hs.removeMember scope n
  | append key b => exact hs.append key hc
  | removeFirst key n => exact hs.removeFirst key n

end Change

/-! ## Attempts -/

/-- What the outcome of a call depends on besides what the store holds. -/
structure Circumstances where
  /-- Whether the store can be reached. -/
  online : Bool
  /-- Whether the disk takes nothing, so that every write fails before the renaming. -/
  full : Bool
  /-- Whether directories cannot be synced, so that every write fails after the renaming. -/
  unsynced : Bool
  /-- The time that a document is stamped with. -/
  time : Time.Timestamp

/-- How far the write of a change gets. -/
inductive Fate where
  /-- The store cannot be reached, and nothing is written. -/
  | unreached
  /-- The write fails before the draft takes the place of the file. -/
  | early
  /-- The write fails when the draft has taken the place of the file. -/
  | late
  /-- All of it succeeds. -/
  | taken
deriving DecidableEq

/-- How far a write to a path gets: the path has to end in the name of the file for the draft to be
renamed, and to name its directory for that to be synced. -/
def Circumstances.fate (p : File.Path) (c : Circumstances) : Fate :=
  if c.online then
    if p.namesFile && !c.full then
      if p.namesFolder && !c.unsynced then .taken else .late
    else .early
  else .unreached

/-- A change that is asked for in some circumstances. -/
structure ChangeCall extends Circumstances where
  change : Change

/-- The times of an attempt are such as clocks tell: their days can be named. -/
structure ChangeCall.IsNamed (a : ChangeCall) : Prop where
  time : a.time.IsNamed
  change : a.change.IsNamed

/-- A file in other circumstances. -/
def Backing.under (c : Circumstances) (b : Backing) : Backing :=
  ⟨{ b.cell with full := c.full, unsynced := c.unsynced }, c.time⟩

namespace Memory

/-- A store in other circumstances. It holds the same, and so does its file. -/
def under (c : Circumstances) (m : Memory) : Memory :=
  ⟨m.shelves, m.backing.map (·.under c), c.online⟩

/-- What comes of an attempt. -/
def attempt (a : ChangeCall) (m : Memory) : Except StoreError a.change.Answer × Memory :=
  a.change.ask (m.under a.toCircumstances)

/-- A store after attempts, one after the other. -/
def after (attempts : List ChangeCall) (m : Memory) : Memory :=
  attempts.foldl (fun m a => (m.attempt a).2) m

/-- The changes that were answered with success. -/
def taken : List ChangeCall → Memory → List Change
  | [], _ => []
  | a :: rest, m =>
    match m.attempt a with
    | (.ok _, t) => a.change :: taken rest t
    | (.error _, t) => taken rest t

/-- What there is under the path of a store's file. -/
def slot? (m : Memory) : Option File.Slot := m.backing.map (·.cell.slot)

/-- The file behind a store is read as a snapshot, of the version that is written, of some lists and
sets. -/
def FileHolds (s : Shelves) (m : Memory) : Prop :=
  ∃ b savedAt, m.backing = some b ∧ b.load Wire.readStoreSnapshot StoreSnapshot.version =
    .ok (some ⟨formVersion, savedAt, s⟩)

/-- The file behind a store holds exactly the lists and sets of the store. A store without a file
yet holds nothing. -/
def Mirrored (m : Memory) : Prop :=
  m.slot? = some .absent ∧ m.shelves = Shelves.empty ∨ m.FileHolds m.shelves

/-- A store has its file at a path, where no directory stands in the way of it, and holds nothing
that cannot be named. -/
structure FiledAt (p : File.Path) (m : Memory) : Prop where
  file : ∃ b, m.backing = some b ∧ b.cell.path = p ∧ b.cell.slot ≠ .directory
  named : m.shelves.AllNamed

/-- A store that was opened has its file where it was opened, and holds what that does. -/
lemma filedAt_of_load {b : Backing} {m : Memory} (h : load b = .ok m) :
    m.FiledAt b.cell.path ∧ m.Mirrored := by
  have hdir : b.cell.slot ≠ .directory := by
    intro hdir
    simp [load, Backing.load, hdir] at h
  unfold load at h
  split at h
  · cases h
  · rename_i hnone
    cases h
    -- Nothing but a missing file is read as nothing.
    have habsent : b.cell.slot = .absent := by
      unfold Backing.load at hnone
      split at hnone
      · assumption
      · cases hnone
      · split at hnone
        · cases hnone
        · split at hnone <;> cases hnone
    exact ⟨⟨⟨b, rfl, rfl, hdir⟩, Shelves.allNamed_empty⟩, .inl ⟨congrArg some habsent, rfl⟩⟩
  · rename_i snapshot hsome
    cases h
    obtain ⟨hversion, hnamed⟩ := Backing.snapshot_of_load hsome
    obtain ⟨version, savedAt, shelves⟩ := snapshot
    cases hversion
    exact ⟨⟨⟨b, rfl, rfl, hdir⟩, hnamed⟩, .inr ⟨b, savedAt, rfl, hsome⟩⟩

variable {m : Memory} {p : File.Path}

/-- Other circumstances do not touch the file. -/
lemma slot?_under (c : Circumstances) (m : Memory) : (m.under c).slot? = m.slot? := by
  simp only [slot?, Memory.under, Option.map_map]
  rfl

/-- What is read in a file is up to what there is under its path. -/
lemma FileHolds.of_slot? {s : Shelves} {t : Memory} (h : m.FileHolds s) (ht : t.slot? = m.slot?) :
    t.FileHolds s := by
  obtain ⟨b, savedAt, hb, hload⟩ := h
  rw [slot?, slot?, hb] at ht
  obtain ⟨b', hb', hslot⟩ := Option.map_eq_some_iff.1 ht
  refine ⟨b', savedAt, hb', ?_⟩
  rw [← hload, Backing.load, Backing.load, hslot]

/-- What comes of an attempt, by how far its write gets: it succeeds, and store and file have the
change; or it fails, and the store has not, whereas the file has if the draft was renamed. -/
def Outcome (a : ChangeCall) (m : Memory) (x : Except StoreError a.change.Answer × Memory) :
    Fate → Prop
  | .taken => x.1 = .ok (a.change.answer m.books) ∧ x.2.shelves = a.change.shelves m.shelves ∧
      x.2.FileHolds x.2.shelves
  | .late => (∃ e, x.1 = .error e) ∧ x.2.shelves = m.shelves ∧
      x.2.FileHolds (a.change.shelves m.shelves)
  | .early | .unreached => (∃ e, x.1 = .error e) ∧ x.2.shelves = m.shelves ∧ x.2.slot? = m.slot?

/-- What comes of an attempt, by what it is answered with. -/
lemma Outcome.by_answer {a : ChangeCall} {x : Except StoreError a.change.Answer × Memory}
    {fate : Fate} (h : m.Outcome a x fate) :
    ((∃ e, x.1 = .error e) ↔ fate ≠ .taken) ∧
    (∀ e, x.1 = .error e → x.2.shelves = m.shelves ∧ (fate ≠ .late → x.2.slot? = m.slot?) ∧
      (fate = .late → x.2.FileHolds (a.change.shelves m.shelves))) ∧
    (∀ v, x.1 = .ok v → v = a.change.answer m.books ∧ x.2.books = a.change.books m.books ∧
      x.2.FileHolds x.2.shelves) := by
  cases fate with
  | taken =>
    obtain ⟨hanswer, hshelves, hholds⟩ := h
    rw [hanswer]
    have hbooks : x.2.books = a.change.books m.books := by
      rw [books, hshelves, a.change.books_shelves, books]
    exact ⟨iff_of_false (by simp) (by simp), nofun,
      fun v hv => ⟨(Except.ok.inj hv).symm, hbooks, hholds⟩⟩
  | late =>
    obtain ⟨⟨e, he⟩, hshelves, hholds⟩ := h
    rw [he]
    exact ⟨iff_of_true ⟨e, rfl⟩ (by simp), fun _ _ => ⟨hshelves, by simp, fun _ => hholds⟩, nofun⟩
  | early | unreached =>
    obtain ⟨⟨e, he⟩, hshelves, hslot⟩ := h
    rw [he]
    exact ⟨iff_of_true ⟨e, rfl⟩ (by simp), fun _ _ => ⟨hshelves, fun _ => hslot, nofun⟩, nofun⟩

/-- A document that gets into the file is read as it was written. -/
lemma fileHolds_of_save {s : Shelves} {b : Backing} (htakes : b.cell.takes = true)
    (hclock : b.clock.IsNamed) (hs : s.AllNamed) (kept : Shelves) (online : Bool) :
    FileHolds s ⟨kept, some (b.save (document b.clock s)).2, online⟩ :=
  ⟨_, b.clock, rfl, Backing.load_of_save StoreSnapshot.version htakes
    (Wire.plain_encodeStoreSnapshot _) (Wire.readStoreSnapshot_encodeStoreSnapshot hclock hs) rfl⟩

/-- A file that a document has got into is where it was. -/
lemma filedAt_of_save {s : Shelves} {b : Backing} (document : Json) (htakes : b.cell.takes = true)
    (hpath : b.cell.path = p) (hs : s.AllNamed) (online : Bool) :
    FiledAt p ⟨s, some (b.save document).2, online⟩ where
  file := ⟨_, rfl, (b.path_save document).trans hpath, by simp [b.slot_save document htakes]⟩
  named := hs

namespace FiledAt

/-- The file of a store in some circumstances is where it was. How far a write to it gets is up to
its path and to the circumstances. -/
lemma exists_under (h : m.FiledAt p) (c : Circumstances) :
    ∃ b, (m.under c).backing = some b ∧ b.clock = c.time ∧ b.cell.path = p ∧
      b.cell.slot ≠ .directory ∧ b.cell.takes = (p.namesFile && !c.full) ∧
      b.cell.syncs = (p.namesFolder && !c.unsynced) := by
  obtain ⟨b, hb, rfl, hdir⟩ := h.file
  refine ⟨b.under c, by rw [Memory.under, hb, Option.map_some], rfl, rfl, hdir, ?_, rfl⟩
  have hslot : (b.cell.slot != .directory) = true := by simpa using hdir
  simp [File.Cell.takes, Backing.under, hslot]

/-- What comes of an attempt is settled by how far its write gets. Afterwards the store has its file
where it had it.

**Proof sketch.** What is written is a snapshot of the shelves with the change, and it is read as it
was written. -/
theorem attempt (h : m.FiledAt p) {a : ChangeCall} (ha : a.IsNamed) :
    m.Outcome a (m.attempt a) (a.fate p) ∧ (m.attempt a).2.FiledAt p := by
  obtain ⟨b, hb, hclock, hpath, hdir, htakes, hsyncs⟩ := h.exists_under a.toCircumstances
  have hnamed : (a.change.shelves m.shelves).AllNamed := ha.change.shelves h.named
  have hsame : (m.under a.toCircumstances).slot? = m.slot? := slot?_under a.toCircumstances m
  have hask : m.attempt a = (m.under a.toCircumstances).replace (a.change.answer m.books)
    (a.change.shelves m.shelves) := a.change.ask_memory _
  rw [hask, Circumstances.fate, ← htakes, ← hsyncs]
  by_cases honline : a.online = true
  · rw [if_pos honline, replace_of_backing_some _ _ honline hb, File.Cell.isWritable]
    by_cases htaken : b.cell.takes = true
    · -- The draft is renamed, so the file has the change whatever comes of the syncing.
      have hholds := fileHolds_of_save htaken (hclock ▸ ha.time) hnamed
      have hfiled := fun {s : Shelves} => filedAt_of_save (s := s)
        (document b.clock (a.change.shelves m.shelves)) htaken hpath
      rw [htaken, Bool.true_and, if_pos rfl]
      by_cases hsynced : b.cell.syncs = true
      · rw [if_pos hsynced, if_pos hsynced]
        exact ⟨⟨rfl, rfl, hholds _ _⟩, hfiled hnamed _⟩
      · rw [if_neg hsynced, if_neg hsynced]
        exact ⟨⟨⟨_, rfl⟩, rfl, hholds _ _⟩, hfiled h.named _⟩
    · have hkept := b.save_of_not_takes (document b.clock (a.change.shelves m.shelves)) htaken
      rw [hkept, if_neg htaken, if_neg (by simp [htaken])]
      have hslot : slot? { m.under a.toCircumstances with backing := some b } = m.slot? := by
        rw [← hb]
        exact hsame
      exact ⟨⟨⟨_, rfl⟩, rfl, hslot⟩, ⟨_, rfl, hpath, hdir⟩, h.named⟩
  · rw [if_neg honline, replace_of_offline _ _ honline]
    exact ⟨⟨⟨_, rfl⟩, rfl, hsame⟩, ⟨b, hb, hpath, hdir⟩, h.named⟩

/-- An attempt whose write fails, if it does, before the renaming leaves a file that holds what the
store does. -/
lemma mirrored_attempt (h : m.FiledAt p) {a : ChangeCall} (ha : a.IsNamed) (hm : m.Mirrored)
    (hlate : a.fate p ≠ .late) : (m.attempt a).2.Mirrored := by
  have hkept : (m.attempt a).2.shelves = m.shelves → (m.attempt a).2.slot? = m.slot? →
      (m.attempt a).2.Mirrored := by
    intro hshelves hslot
    obtain ⟨habsent, hempty⟩ | hholds := hm
    · exact .inl ⟨hslot.trans habsent, hshelves.trans hempty⟩
    · rw [← hshelves] at hholds
      exact .inr (hholds.of_slot? hslot)
  have hout := (h.attempt ha).1
  cases hfate : a.fate p with
  | taken =>
    rw [hfate] at hout
    exact .inr hout.2.2
  | late => exact absurd hfate hlate
  | early | unreached =>
    rw [hfate] at hout
    exact hkept hout.2.1 hout.2.2

/-- An attempt that succeeds makes its change and one that fails makes none. -/
lemma books_attempt (h : m.FiledAt p) {a : ChangeCall} (ha : a.IsNamed) (rest : List ChangeCall) :
    (m.taken (a :: rest)).foldl (fun k c => c.books k) m.books =
      ((m.attempt a).2.taken rest).foldl (fun k c => c.books k) (m.attempt a).2.books := by
  obtain ⟨-, hfails, hsucceeds⟩ := (h.attempt ha).1.by_answer
  rcases hx : m.attempt a with ⟨e | v, t⟩ <;> rw [hx] at hfails hsucceeds
  · rw [taken, hx, books, books, (hfails e rfl).1]
  · rw [taken, hx, List.foldl_cons, (hsucceeds v rfl).2.1]

end FiledAt

/-- The first attempt is made before the others. -/
lemma after_cons (a : ChangeCall) (rest : List ChangeCall) (m : Memory) :
    m.after (a :: rest) = (m.attempt a).2.after rest := rfl

/-- Attempts are made one after the other, and then one more. -/
lemma after_append (attempts : List ChangeCall) (a : ChangeCall) (m : Memory) :
    m.after (attempts ++ [a]) = ((m.after attempts).attempt a).2 := by
  rw [after, List.foldl_append]
  rfl

/-- After any attempts a store holds the changes that were answered with success. So does its file
if no write has failed after the renaming.

**Proof sketch.** Induction on the attempts. One that succeeds makes its change and one that fails
makes none. -/
theorem FiledAt.after (h : m.FiledAt p) {attempts : List ChangeCall}
    (hnamed : ∀ a ∈ attempts, a.IsNamed) :
    (m.after attempts).FiledAt p ∧
      (m.after attempts).books = (m.taken attempts).foldl (fun k c => c.books k) m.books ∧
      (m.Mirrored → (∀ a ∈ attempts, a.fate p ≠ .late) → (m.after attempts).Mirrored) := by
  induction attempts generalizing m with
  | nil => exact ⟨h, rfl, fun hm _ => hm⟩
  | cons a rest ih =>
    obtain ⟨ha, hrest⟩ := List.forall_mem_cons.1 hnamed
    obtain ⟨hafter, hbooks, hmirrored⟩ := ih (h.attempt ha).2 hrest
    rw [after_cons, h.books_attempt ha]
    refine ⟨hafter, hbooks, fun hm hlate => ?_⟩
    obtain ⟨hfirst, hlater⟩ := List.forall_mem_cons.1 hlate
    exact hmirrored (h.mirrored_attempt ha hm hfirst) hlater

/-- A store that can be reached answers by its books. -/
lemma reads_under {c : Circumstances} (hc : c.online = true) (m : Memory) :
    (∀ scope n, Store.isMember scope n (m.under c) = (.ok (m.books.member scope n), m.under c)) ∧
    (∀ key limit, Store.readRange key limit (m.under c) =
      (.ok (m.books.front key limit), m.under c)) ∧
    (∀ key, Store.length key (m.under c) = (.ok (m.books.list key).length, m.under c)) := by
  have hread : ∀ {α : Type} (f : Shelves → α),
      (m.under c).read f = (.ok (f m.shelves), m.under c) := fun f => if_pos hc
  refine ⟨fun scope n => hread _, fun key limit => ?_, fun key => hread _⟩
  exact (hread _).trans (by rw [books, Shelves.front_books])

/-- A booking that is put into a list while the disk takes nothing, or later. -/
def lateBooking (full : Bool) : ChangeCall :=
  ⟨⟨true, full, false, Time.Timestamp.epoch⟩, .append "lane" ⟨⟨7⟩, "mona", Time.Timestamp.epoch⟩⟩

/-- A pull request that is put into a set. -/
def earlyMember : ChangeCall :=
  ⟨⟨true, false, false, Time.Timestamp.epoch⟩, .addMember "repository" ⟨7⟩⟩

/-- A store that was opened on a path that is nothing but a name fails to put a pull request into a
set, and does not hold it. Its file has it, although nothing is wrong with the disk: the directory
that is to be synced has no name. -/
theorem drift_under_bare_name :
    ∃ m, load ⟨File.Cell.absent (.ofText "state.json"), Time.Timestamp.epoch⟩ = .ok m ∧
      (∃ e, (m.attempt earlyMember).1 = .error e) ∧
      (m.attempt earlyMember).2.shelves = Shelves.empty ∧
      (m.attempt earlyMember).2.FileHolds (Shelves.empty.addMember "repository" ⟨7⟩) := by
  have hopen : load ⟨File.Cell.absent (.ofText "state.json"), Time.Timestamp.epoch⟩ =
      .ok ⟨Shelves.empty, some ⟨File.Cell.absent (.ofText "state.json"), Time.Timestamp.epoch⟩,
        true⟩ := rfl
  have hmember : earlyMember.IsNamed := ⟨by decide +kernel, trivial⟩
  have hlate : earlyMember.fate (.ofText "state.json") = .late := by decide +kernel
  obtain ⟨herror, hshelves, hholds⟩ : Outcome earlyMember _ _ .late :=
    hlate ▸ ((filedAt_of_load hopen).1.attempt hmember).1
  exact ⟨_, hopen, herror, hshelves, hholds⟩

end Memory

end MergeTurn
