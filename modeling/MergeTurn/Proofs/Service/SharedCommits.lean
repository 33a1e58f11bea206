import MergeTurn.Proofs.Service.Runs
import MergeTurn.Proofs.Store.Atomic

set_option autoImplicit false

/-!
# Pull requests with the same last commit

A status is about a commit, and several pull requests of a repository may have the same last commit,
such as one branch that is proposed to two others. The service looks one of them up and asks only
whether that one is the head of its lane. So the end of a head's checks is published exactly if the
head is the one that is looked up, and is overlooked if another with the same commit is.

## Main definitions

* `MergeTurn.Registry.sharing` — the pull requests on record with a given last commit.
* `MergeTurn.Service.EndsChecks` — a status ends the checks of a head.
* `MergeTurn.Service.Heeded` — a status is published if and only if it ends the checks of a head.

## Main results

* `MergeTurn.Service.checkChanged_of_heads`, `checkChanged_of_not_heads` — what a status comes to.
* `MergeTurn.Service.heeded_iff` — it is heeded exactly if no head is overlooked.
* `MergeTurn.Service.heeded_of_sole` — so it is where no two pull requests have the same commit.

## Design

Which of several pull requests is looked up is of no account here, only that it is one of those that
share the commit.
-/

namespace MergeTurn

/-- The pull requests of a repository on record whose last commit is the given one. -/
def Registry.sharing (repo : Repo) (head : CommitId) (r : Registry) : List Pull :=
  r.pulls.filter fun p => p.repo == repo && p.head == head

/-- The pull request that is looked up for a commit is the first of those that share it. -/
lemma Registry.findByHead?_eq_head? (repo : Repo) (head : CommitId) (r : Registry) :
    r.findByHead? repo head = (r.sharing repo head).head? :=
  List.head?_filter.symm

/-- A pull request is the head of its lane, by a booking. -/
def Books.Heads (k : Books) (p : Pull) (b : Booking) : Prop :=
  (k.list p.lane.storeKey).head? = some b ∧ b.number = p.number

variable {σ : Type} [Store σ] {A : AtomicStore σ}

/-- The head of a lane is what the books say, or the store cannot be read. Either way they stay as
they are. -/
lemma Desk.head_ends {s : σ} (hs : A.sane s) (lane : Lane) :
    (∃ e t, Desk.head lane s = .fail (.store e) t) ∨
      ∃ t, Desk.head lane s = .done ((A.books s).list lane.storeKey).head? t := by
  unfold Desk.head
  have hread := A.readRange hs lane.storeKey (some 1)
  generalize Store.readRange lane.storeKey (some 1) s = r at hread ⊢
  cases hread with
  | failed => exact .inl ⟨_, _, rfl⟩
  | @done t =>
    refine .inr ⟨t, ?_⟩
    simp [Turn.ask, Books.front, List.head?_take]

namespace Service

/-- A final status that somebody else posts ends the checks of a head: of a pull request on record
that has the commit of the status and is the head of its lane. The result is about that pull request,
its lane and who booked it. -/
def EndsChecks (k : Books) (change : CheckChange) (s : Service σ) (c : HeadChecks) : Prop :=
  (change.context ≠ s.rules.context ∧ change.state.isFinal = true) ∧
    ∃ p ∈ s.registry.sharing change.repo change.commit, ∃ b, k.Heads p b ∧
      c = ⟨p.lane, p.number, b.username, change.commit, change.state⟩

/-- A status is published if and only if it ends the checks of a head. Then one result is published,
of the checks of such a head, and otherwise nothing. -/
structure Heeded (k : Books) (change : CheckChange) (s : Service σ) : Prop where
  published_iff : (s.checkChanged change).1 = .ok .published ↔ ∃ c, EndsChecks k change s c
  told : (∃ c, EndsChecks k change s c) → ∃ c, EndsChecks k change s c ∧
    (s.checkChanged change).2.ledger.events = s.ledger.events ++ [.checks c]
  silent : (¬ ∃ c, EndsChecks k change s c) →
    (s.checkChanged change).2.ledger.events = s.ledger.events

/-- The pull request that is looked up for a status is the head of its lane, and the store can be
asked about that. -/
def FindsHead (k : Books) (change : CheckChange) (s : Service σ) : Prop :=
  ∃ p b, s.registry.findByHead? change.repo change.commit = some p ∧ k.Heads p b ∧
    ∃ first, (Desk.head p.lane s.store).answer = .ok first

variable {s : Service σ} {change : CheckChange}

omit [Store σ] in
/-- What is looked up for a commit is one of those that share it. -/
lemma mem_sharing_of_findByHead? {repo : Repo} {head : CommitId} {p : Pull}
    (h : s.registry.findByHead? repo head = some p) : p ∈ s.registry.sharing repo head := by
  rw [Registry.findByHead?_eq_head?] at h
  exact List.mem_of_head? h

/-- Asking the desk for the head of a lane answers what the books say, or fails. Either way nothing
but the store is touched. -/
lemma atDesk_head_ends (hs : A.sane s.store) (lane : Lane) :
    (∃ e t, s.atDesk (Desk.head lane) = (.error e, { s with store := t })) ∨
      ∃ t, s.atDesk (Desk.head lane) =
        (.ok ((A.books s.store).list lane.storeKey).head?, { s with store := t }) := by
  obtain ⟨e, t, ht⟩ | ⟨t, ht⟩ := Desk.head_ends hs lane
  · refine .inl ⟨.store e, t, ?_⟩
    rw [atDesk, ht]
    rfl
  · refine .inr ⟨t, ?_⟩
    rw [atDesk, ht]
    rfl

/-- A final status of somebody else is published if a head is looked up for it, with the head's
number and name. -/
lemma checkChanged_of_heads (hs : A.sane s.store) (hcontext : change.context ≠ s.rules.context)
    (hfinal : change.state.isFinal = true) (h : FindsHead (A.books s.store) change s) :
    ∃ c, EndsChecks (A.books s.store) change s c ∧
      (s.checkChanged change).1 = .ok .published ∧
      (s.checkChanged change).2.ledger.events = s.ledger.events ++ [.checks c] := by
  obtain ⟨p, b, hp, hheads, first, hanswer⟩ := h
  refine ⟨_, ⟨⟨hcontext, hfinal⟩, p, mem_sharing_of_findByHead? hp, b, hheads, rfl⟩, ?_⟩
  have hnumber : ¬ b.number ≠ p.number := not_not_intro hheads.2
  obtain ⟨e, t, hdesk⟩ | ⟨t, hdesk⟩ := atDesk_head_ends hs p.lane
  · cases (congrArg Prod.fst hdesk).symm.trans hanswer
  · rw [hheads.1] at hdesk
    simp only [checkChanged, if_neg hcontext, hp, hdesk, if_neg hnumber, if_pos hfinal]
    refine ⟨trivial, ?_⟩
    rw [hheads.2]
    rfl

/-- Any other status is not published, and nothing is.

**Proof sketch.** Branch by branch. The last one is left only by a final status for which a head was
looked up. -/
lemma checkChanged_of_not_heads (hs : A.sane s.store)
    (h : ¬ ((change.context ≠ s.rules.context ∧ change.state.isFinal = true) ∧
      FindsHead (A.books s.store) change s)) :
    (s.checkChanged change).1 ≠ .ok .published ∧
      (s.checkChanged change).2.ledger.events = s.ledger.events := by
  by_cases hcontext : change.context = s.rules.context
  · simp [checkChanged, hcontext]
  cases hp : s.registry.findByHead? change.repo change.commit with
  | none => simp [checkChanged, hcontext, hp]
  | some p =>
    obtain ⟨e, t, hdesk⟩ | ⟨t, hdesk⟩ := atDesk_head_ends hs p.lane
    · simp [checkChanged, hcontext, hp, hdesk]
    · cases hhead : ((A.books s.store).list p.lane.storeKey).head? with
      | none =>
        rw [hhead] at hdesk
        simp [checkChanged, hcontext, hp, hdesk]
      | some b =>
        have hasked : (Desk.head p.lane s.store).answer = .ok _ := congrArg Prod.fst hdesk
        rw [hhead] at hdesk
        simp only [checkChanged, if_neg hcontext, hp, hdesk]
        split_ifs with hnumber hfinal
        · exact ⟨by simp, rfl⟩
        · have hfinds : FindsHead (A.books s.store) change s :=
            ⟨p, b, hp, ⟨hhead, not_not.1 hnumber⟩, _, hasked⟩
          exact absurd ⟨⟨hcontext, hfinal⟩, hfinds⟩ h
        · exact ⟨by simp, rfl⟩

/-- A status is heeded if a head is looked up for it whenever it ends the checks of one. -/
lemma heeded_of_findsHead (hs : A.sane s.store)
    (h : (∃ c, EndsChecks (A.books s.store) change s c) → FindsHead (A.books s.store) change s) :
    Heeded (A.books s.store) change s := by
  by_cases hends : ∃ c, EndsChecks (A.books s.store) change s c
  · obtain ⟨c, hc⟩ := hends
    obtain ⟨c', hc', hpublished, hevents⟩ :=
      checkChanged_of_heads hs hc.1.1 hc.1.2 (h ⟨c, hc⟩)
    exact ⟨iff_of_true hpublished ⟨c, hc⟩, fun _ => ⟨c', hc', hevents⟩,
      fun hno => absurd ⟨c, hc⟩ hno⟩
  · have hfound : ¬ ((change.context ≠ s.rules.context ∧ change.state.isFinal = true) ∧
        FindsHead (A.books s.store) change s) := by
      rintro ⟨⟨hcontext, hfinal⟩, hfinds⟩
      obtain ⟨c, hc, -⟩ := checkChanged_of_heads hs hcontext hfinal hfinds
      exact hends ⟨c, hc⟩
    obtain ⟨hno, hevents⟩ := checkChanged_of_not_heads hs hfound
    exact ⟨iff_of_false hno hends, fun h => absurd h hends, fun _ => hevents⟩

/-- Over any store whose calls take full effect or none, a status is heeded exactly if it ends the
checks of no head, or the pull request that is looked up for it is one and the store can be asked
about that.

**Proof sketch.** What is published is about the one that is looked up. If that is a head, the status
ends its checks; if it is not, nothing is published, whoever else shares the commit. -/
theorem heeded_iff (hs : A.sane s.store) :
    Heeded (A.books s.store) change s ↔
      ((∃ c, EndsChecks (A.books s.store) change s c) → FindsHead (A.books s.store) change s) := by
  constructor
  · intro h hends
    by_contra hnot
    obtain ⟨hno, -⟩ := checkChanged_of_not_heads hs fun hfound => hnot hfound.2
    exact hno (h.published_iff.2 hends)
  · exact heeded_of_findsHead hs

/-- Where no two pull requests on record have the commit of a status, and the store can be asked about
the head of every lane, the status is heeded. -/
theorem heeded_of_sole (hs : A.sane s.store)
    (hsole : (s.registry.sharing change.repo change.commit).length ≤ 1)
    (hasks : ∀ lane, ∃ first, (Desk.head lane s.store).answer = .ok first) :
    Heeded (A.books s.store) change s := by
  refine heeded_of_findsHead hs ?_
  rintro ⟨c, -, p, hp, b, hheads, -⟩
  refine ⟨p, b, ?_, hheads, hasks p.lane⟩
  rw [Registry.findByHead?_eq_head?]
  match hshare : s.registry.sharing change.repo change.commit, hp, hsole with
  | [q], hq, _ => rw [List.mem_singleton.1 hq, List.head?_cons]

/-! ## One commit proposed to two branches -/

/-- The service with two pull requests of the same commit on record, of which the first is booked
nowhere and the second is the head of its lane. -/
def sharedCommit (first second : Pull) : Service Memory :=
  let s := start ⟨"merge-turn", 0⟩ Memory.volatile Registry.volatile 0
  ((s.updated first).2.opened second Time.Timestamp.epoch).2.settle

/-- The checks of the commit succeed. -/
def sharedSuccess : CheckChange := ⟨⟨"octo", "widgets"⟩, ⟨"0"⟩, .success, "ci"⟩

/-- The status is about the second pull request, but the first is looked up. So nothing is
published. -/
theorem not_heeded_shared :
    let s := sharedCommit { samplePull 1 "one" with branch := "dev" } (samplePull 2 "two")
    ¬ Heeded s.store.books sharedSuccess s := by
  intro s h
  have hanswer : (s.checkChanged sharedSuccess).1 = .ok .notHead := by decide +kernel
  have hends : EndsChecks s.store.books sharedSuccess s
      ⟨(samplePull 2 "two").lane, ⟨2⟩, "mona", ⟨"0"⟩, .success⟩ :=
    ⟨by decide +kernel, samplePull 2 "two", by decide +kernel,
      ⟨⟨2⟩, "mona", Time.Timestamp.epoch⟩, ⟨by decide +kernel, rfl⟩, rfl⟩
  cases hanswer.symm.trans (h.published_iff.2 ⟨_, hends⟩)

/-- If it is the first of the two that is booked, it is looked up, and the end of its checks is
published. -/
theorem heeded_shared :
    let s := sharedCommit { samplePull 2 "two" with branch := "dev" } (samplePull 1 "one")
    Heeded s.store.books sharedSuccess s := by
  intro s
  have hserving : s.store.Serving := ⟨by decide +kernel, Memory.writable_of_backing_none
    (by decide +kernel)⟩
  exact (heeded_iff (A := Memory.atomic Memory.keeps_serving) hserving).2 fun _ =>
    ⟨samplePull 1 "one", ⟨⟨1⟩, "mona", Time.Timestamp.epoch⟩, by decide +kernel,
      ⟨by decide +kernel, rfl⟩, _, rfl⟩

end Service

end MergeTurn
