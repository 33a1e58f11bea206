import MergeTurn.Proofs.Service.Pages
import MergeTurn.Proofs.Service.Runs

set_option autoImplicit false

/-!
# Whose turn it is

A lane has one turn, and that is its head's. What the pages say may lag behind: whoever was removed
shows the turn until its page has been told otherwise. As long as only the head of a lane shows the
turn, no two of the lane do, and setting labels by the books keeps it so.

## Main definitions

* `MergeTurn.Service.SoleTurn` — no two pull requests of a lane show that it is their turn.
* `MergeTurn.Service.Heads` — whoever shows the turn is on record and the head of its lane, but for
  one pull request perhaps.
* `MergeTurn.Service.InOrder` — bookings and records are about the pull requests of some calls, in
  their own lanes.

## Main results

* `MergeTurn.Service.Heads.sole` — heads do not share their turn.
* `MergeTurn.Service.Heads.book`, `unbook`, `clear` — what becomes of that.
* `MergeTurn.Service.Posts.setLabels_heads` — setting labels keeps it.
-/

namespace MergeTurn.Service

/-! ## Pull requests of calls -/

/-- The pull requests that calls from webhooks tell of. -/
def pulls (calls : List Call) : List Pull :=
  calls.filterMap Call.pull?

/-- Calls fit together, and a pull request has one page. -/
structure Paged (calls : List Call) : Prop extends Coherent calls where
  one_url : ∀ p ∈ pulls calls, ∀ q ∈ pulls calls, p.key = q.key → p.statusUrl = q.statusUrl

/-- A call that tells of a pull request is about this one and its lane. -/
lemma Call.of_pull? {c : Call} {p : Pull} (h : c.pull? = some p) :
    c.key = p.key ∧ c.lane = p.lane := by
  cases c <;> cases h <;> exact ⟨rfl, rfl⟩

variable {calls : List Call} {p q : Pull}

/-- Pull requests of calls that fit together are in their own lanes. -/
lemma Coherent.home (h : Coherent calls) (hp : p ∈ pulls calls) :
    p.lane = (charter calls).home p.key ∧ p.lane.repo.Colonless := by
  obtain ⟨c, hc, hcp⟩ := List.mem_filterMap.1 hp
  obtain ⟨hkey, hlane⟩ := Call.of_pull? hcp
  have hfits := h.fits hc
  rw [← hlane, ← hkey]
  exact ⟨hfits.lane, hfits.colonless⟩

/-- No two pull requests of a lane show that it is their turn. -/
def SoleTurn (calls : List Call) (w : List (StatusTarget × StatusReport)) : Prop :=
  ∀ p ∈ pulls calls, ∀ q ∈ pulls calls, p.lane = q.lane →
    ShowsTurn p.statusUrl w → ShowsTurn q.statusUrl w → p.key = q.key

/-- If nobody shows a turn that did not show it before, no two do. -/
lemma SoleTurn.of_fewer {v w : List (StatusTarget × StatusReport)} (h : SoleTurn calls v)
    (hfewer : ∀ p ∈ pulls calls, ShowsTurn p.statusUrl w → ShowsTurn p.statusUrl v) :
    SoleTurn calls w :=
  fun p hp q hq hlane hpw hqw => h p hp q hq hlane (hfewer p hp hpw) (hfewer q hq hqw)

/-! ## Books and records in order -/

/-- Bookings and records are about the pull requests of some calls, in their own lanes. -/
structure InOrder (calls : List Call) (k : Books) (r : Registry) : Prop where
  inStep : k.InStep
  homed : k.Homed (charter calls)
  keyed : r.Keyed
  known : ∀ key p, r.get? key = some p → p ∈ pulls calls

variable {k : Books} {r : Registry} {l : Lane} {b : Booking} {n : PullNumber}

namespace InOrder

variable (h : InOrder calls k r)
include h

/-- One of the pull requests is recorded. -/
lemma record (hp : p ∈ pulls calls) : InOrder calls k (r.record p) := by
  refine ⟨h.inStep, h.homed, h.keyed.record p, fun key q hq => ?_⟩
  rw [Registry.get?_record] at hq
  split_ifs at hq
  · cases hq
    exact hp
  · exact h.known key q hq

/-- A record is given up. -/
lemma forget (key : PullKey) : InOrder calls k (r.forget key) := by
  refine ⟨h.inStep, h.homed, h.keyed.forget key, fun other q hq => ?_⟩
  rw [Registry.get?_forget] at hq
  split_ifs at hq
  exact h.known other q hq

/-- A pull request that is in no lane is booked in its own. -/
lemma book (hl : l.repo.Colonless) (hhome : l = (charter calls).home ⟨l.repo, b.number⟩)
    (hm : k.member l.repo.storeKey b.number = false) :
    InOrder calls ((k.addMember l.repo.storeKey b.number).append l.storeKey b) r :=
  ⟨h.inStep.book hl hm, h.homed.book hl hhome, h.keyed, h.known⟩

/-- A pull request is taken out of its lane. -/
lemma unbook (hl : l.repo.Colonless) (hlists : k.Lists l.storeKey n) :
    InOrder calls ((k.removeFirst l.storeKey n).removeMember l.repo.storeKey n) r :=
  ⟨h.inStep.unbook hl hlists, h.homed.unbook h.inStep hl, h.keyed, h.known⟩

/-- Who is on record for a pull request that belongs to a lane. -/
lemma of_record (hc : Coherent calls) (hhome : l = (charter calls).home ⟨l.repo, n⟩)
    (hp : r.get? ⟨l.repo, n⟩ = some p) :
    p ∈ pulls calls ∧ p.key = ⟨l.repo, n⟩ ∧ p.lane = l ∧ p.number = n := by
  have hmem := h.known _ p hp
  have hkey := h.keyed _ p hp
  refine ⟨hmem, hkey, ?_, congrArg PullKey.number hkey⟩
  rw [(hc.home hmem).1, hkey]
  exact hhome.symm

/-- Who is on record for a booking in a lane has the place of the booking. -/
lemma of_booked (hc : Coherent calls) (hl : l.repo.Colonless) {i : Nat}
    (hb : (k.list l.storeKey)[i]? = some b) (hp : r.get? ⟨l.repo, b.number⟩ = some p) :
    p ∈ pulls calls ∧ p.key = ⟨l.repo, b.number⟩ ∧ p.lane = l ∧
      k.place p.lane p.number = some i := by
  have hlists : k.Lists l.storeKey b.number := List.mem_map.2 ⟨b, List.mem_of_getElem? hb, rfl⟩
  obtain ⟨hmem, hkey, hlane, hnumber⟩ := h.of_record hc (h.homed l hl b.number hlists) hp
  refine ⟨hmem, hkey, hlane, ?_⟩
  rw [hlane, hnumber]
  exact Books.place_of_getElem? (h.inStep.nodup l hl) hb

end InOrder

/-! ## Heads -/

/-- Whoever shows the turn is on record and the head of its lane, but for one pull request
perhaps. -/
def Heads (calls : List Call) (k : Books) (r : Registry) (but : Option PullKey)
    (w : List (StatusTarget × StatusReport)) : Prop :=
  ∀ p ∈ pulls calls, ShowsTurn p.statusUrl w →
    but = some p.key ∨ (k.place p.lane p.number = some 0 ∧ (r.get? p.key).isSome)

namespace Heads

variable {w : List (StatusTarget × StatusReport)} {but : Option PullKey}

/-- Two heads of a lane are one. -/
lemma sole (h : Heads calls k r none w) : SoleTurn calls w := by
  intro p hp q hq hlane hpw hqw
  obtain ⟨hpk, -⟩ := (h p hp hpw).resolve_left nofun
  obtain ⟨hqk, -⟩ := (h q hq hqw).resolve_left nofun
  obtain ⟨b, hb, hbp⟩ := Books.exists_getElem?_of_place hpk
  obtain ⟨b', hb', hbq⟩ := Books.exists_getElem?_of_place hqk
  rw [hlane] at hb
  cases hb.symm.trans hb'
  have hrepo : p.repo = q.repo := congrArg Lane.repo hlane
  rw [Pull.key, Pull.key, hrepo, ← hbp, hbq]

/-- A pull request may be left out of account. -/
lemma excuse (h : Heads calls k r none w) : Heads calls k r but w :=
  fun p hp hpw => .inr ((h p hp hpw).resolve_left nofun)

/-- One that does not show the turn need not be left out of account. -/
lemma of_not_shown {key : PullKey} (h : Heads calls k r (some key) w)
    (hnot : ∀ p ∈ pulls calls, p.key = key → ¬ ShowsTurn p.statusUrl w) :
    Heads calls k r none w := by
  intro p hp hpw
  refine .inr ((h p hp hpw).resolve_left fun he => hnot p hp ?_ hpw)
  exact (Option.some.inj he).symm

/-- A report is posted that says no more than is so. -/
lemma post (hc : Coherent calls) (h : Heads calls k r but w) (hq : q ∈ pulls calls)
    {report : StatusReport} (hnew : report.Reads (placeLabel (some 0)) →
      k.place q.lane q.number = some 0 ∧ (r.get? q.key).isSome) :
    Heads calls k r but (w ++ [(q.statusTarget, report)]) := by
  intro p hp hpw
  rw [showsTurn_append] at hpw
  split_ifs at hpw with hurl
  · have hkey : p.key = q.key := hc.one_page p hp q hq hurl
    have hlane : p.lane = q.lane := by rw [(hc.home hp).1, (hc.home hq).1, hkey]
    have hnumber : p.number = q.number := congrArg PullKey.number hkey
    rw [hlane, hnumber, hkey]
    exact .inr (hnew hpw)
  · exact h p hp hpw

/-- The one that was left out of account is told that it is not its turn. -/
lemma clear (hc : Paged calls) (hq : q ∈ pulls calls) (h : Heads calls k r (some q.key) w)
    {report : StatusReport} (hnot : ¬ report.Reads (placeLabel (some 0))) :
    Heads calls k r none (w ++ [(q.statusTarget, report)]) := by
  refine (h.post hc.toCoherent hq fun hreads => absurd hreads hnot).of_not_shown
    fun p hp hkey hpw => ?_
  have hurl : p.statusUrl = q.statusTarget.statusUrl := hc.one_url p hp q hq hkey
  rw [showsTurn_append, if_pos hurl] at hpw
  exact hnot hpw

/-- A pull request is recorded. -/
lemma record (h : Heads calls k r but w) (q : Pull) : Heads calls k (r.record q) but w := by
  intro p hp hpw
  refine (h p hp hpw).imp_right (And.imp_right fun hr => ?_)
  rw [Registry.get?_record]
  split_ifs
  · rfl
  · exact hr

/-- The one that is left out of account is forgotten. -/
lemma forget {key : PullKey} (h : Heads calls k r (some key) w) :
    Heads calls k (r.forget key) (some key) w := by
  intro p hp hpw
  by_cases hkey : p.key = key
  · exact .inl (by rw [hkey])
  · rw [Registry.get?_forget, if_neg hkey]
    exact h p hp hpw

/-- A booking changes no heads but of empty lanes. -/
lemma book (hc : Coherent calls) (hk : k.InStep) (hl : l.repo.Colonless)
    (hm : k.member l.repo.storeKey b.number = false) (h : Heads calls k r but w) :
    Heads calls ((k.addMember l.repo.storeKey b.number).append l.storeKey b) r but w := by
  intro p hp hpw
  refine (h p hp hpw).imp_right (And.imp_left fun hplace => ?_)
  have hnot := hk.not_lists hl hm
  rw [Books.place_book hl (hc.home hp).2 hnot, if_neg, hplace]
  rintro ⟨hlane, hnumber⟩
  rw [hlane, hnumber, Books.place_eq_none_iff.2 hnot] at hplace
  cases hplace

/-- A removal changes no heads but the one that is removed. -/
lemma unbook (hc : Coherent calls) (hl : l.repo.Colonless) (h : Heads calls k r none w) :
    Heads calls ((k.removeFirst l.storeKey n).removeMember l.repo.storeKey n) r
      (some ⟨l.repo, n⟩) w := by
  intro p hp hpw
  obtain ⟨hplace, hr⟩ := (h p hp hpw).resolve_left nofun
  by_cases hlane : p.lane = l
  · by_cases hnumber : p.number = n
    · left
      rw [← hlane, ← hnumber]
      rfl
    · obtain ⟨i, hi, hat⟩ := (Books.place_unbook_le (k := k) hl hnumber).2 0 (hlane ▸ hplace)
      rw [Nat.le_zero.1 hi] at hat
      exact .inr ⟨hlane.symm ▸ hat, hr⟩
  · rw [Books.place_unbook_of_ne hl (hc.home hp).2 hlane]
    exact .inr ⟨hplace, hr⟩

end Heads

/-- If another pull request of its lane shows the turn when the head is told that it is its turn, two
show it. The other one is not in the lane any more. -/
lemma InOrder.not_sole {w : List (StatusTarget × StatusReport)} {bs : List Booking}
    (h : InOrder calls k r) (hc : Coherent calls) (hl : l.repo.Colonless)
    (hhome : l = (charter calls).home ⟨l.repo, n⟩) (hgone : ¬ k.Lists l.storeKey n)
    (hp : r.get? ⟨l.repo, n⟩ = some p) (hshows : ShowsTurn p.statusUrl w)
    (hlist : k.list l.storeKey = b :: bs) (hq : r.get? ⟨l.repo, b.number⟩ = some q) :
    ¬ SoleTurn calls (w ++ [(q.statusTarget, (placeLabel (some 0)).withTarget q.pageUrl)]) := by
  intro hsole
  obtain ⟨hpmem, hpkey, hplane, -⟩ := h.of_record hc hhome hp
  have hfirst : (k.list l.storeKey)[0]? = some b := by
    rw [hlist]
    rfl
  obtain ⟨hqmem, hqkey, hqlane, -⟩ := h.of_booked hc hl hfirst hq
  have hturn : ∀ url, ShowsTurn url w ∨ url = q.statusUrl → ShowsTurn url
      (w ++ [(q.statusTarget, (placeLabel (some 0)).withTarget q.pageUrl)]) := by
    intro url hurl
    rw [showsTurn_append]
    split_ifs with he
    · exact (placeLabel_reads_turn _).2 rfl
    · exact hurl.resolve_right he
  have hsame := hsole p hpmem q hqmem (hplane.trans hqlane.symm) (hturn _ (.inl hshows))
    (hturn _ (.inr rfl))
  refine hgone (List.mem_map.2 ⟨b, List.mem_of_getElem? hfirst, ?_⟩)
  exact congrArg PullKey.number (hqkey.symm.trans (hsame.symm.trans hpkey))

/-! ## Setting labels -/

namespace Posts

variable {s : Service Memory} {but : Option PullKey}

section Heads

variable (hc : Coherent calls) (hs : s.clients.status = fun _ => none)
  (horder : InOrder calls s.store.books s.registry)
  (h : Heads calls s.store.books s.registry but s.posted)
include hc hs horder h

/-- The labels of a lane show the turn to its head. -/
lemma relabel_heads (hl : l.repo.Colonless) :
    Posts (Heads calls s.store.books s.registry but) s (s.relabel l).2 := by
  refine relabel hs h fun i b p w hb hp hw => ?_
  obtain ⟨hmem, hkey, -, hplace⟩ := horder.of_booked hc hl hb hp
  refine hw.post hc hmem fun hreads => ?_
  rw [placeLabel_reads_turn, Option.some.injEq] at hreads
  rw [hplace, hreads, hkey, hp]
  exact ⟨rfl, rfl⟩

/-- The label of a booking that is followed up shows the turn if it is the head by now. -/
lemma onAdded_heads (hhome : l = (charter calls).home ⟨l.repo, n⟩) :
    Posts (Heads calls s.store.books s.registry but) s (s.onAdded l n) := by
  refine onAdded hs h fun p hp => ?_
  obtain ⟨hmem, hkey, hlane, hnumber⟩ := horder.of_record hc hhome hp
  refine h.post hc hmem fun hreads => ?_
  rw [placeLabel_reads_turn] at hreads
  rw [hlane, hnumber, hkey, hp]
  exact ⟨hreads, rfl⟩

/-- The labels that follow a removal show the turn to the head. -/
lemma onRemoved_heads (hreach : s.store.refusal? ≠ some Memory.offline)
    (hhome : l = (charter calls).home ⟨l.repo, n⟩) (hl : l.repo.Colonless) (closed : Bool) :
    Posts (Heads calls s.store.books s.registry but) s (s.onRemoved l n closed) := by
  have hlabels := relabel_heads hc hs horder h hl
  rw [onRemoved_eq hreach]
  split_ifs
  · exact hlabels
  · cases hp : s.registry.get? ⟨l.repo, n⟩ with
    | none => exact hlabels
    | some p =>
      refine hlabels.trans (post (hlabels.clients ▸ hs) hlabels.through.last ?_)
      refine hlabels.through.last.post hc (horder.of_record hc hhome hp).1 fun hreads => ?_
      exact absurd hreads (placeLabel_none_not_turn _)

/-- What the label handlers do about a change of a lane shows the turn to heads only. -/
lemma setLabels_heads {e : LaneEvent} (hreach : s.store.refusal? ≠ some Memory.offline)
    (hhome : e.lane = (charter calls).home e.key) (hl : e.lane.repo.Colonless) :
    Posts (Heads calls s.store.books s.registry but) s (s.setLabels e) := by
  cases e with
  | added l b place => exact onAdded_heads hc hs horder h hhome
  | removed l b removal => exact onRemoved_heads hc hs horder h hreach hhome hl removal.closed

end Heads

end Posts

/-- When a pull request that stays open was removed, it is told last that it is not its turn, and then
only heads show their turn. -/
lemma Heads.onRemoved {s : Service Memory} (hc : Paged calls) (hs : s.clients.status = fun _ => none)
    (horder : InOrder calls s.store.books s.registry) (hl : l.repo.Colonless)
    (h : Heads calls s.store.books s.registry (some ⟨l.repo, n⟩) s.posted)
    (hreach : s.store.refusal? ≠ some Memory.offline)
    (hp : s.registry.get? ⟨l.repo, n⟩ = some p) :
    Heads calls s.store.books s.registry none (s.onRemoved l n false).posted := by
  have hlabels := Posts.relabel_heads hc.toCoherent hs horder h hl
  have hkey := horder.keyed _ p hp
  have hlast := hlabels.through.last
  rw [onRemoved_eq hreach, if_neg (by simp), hp]
  dsimp only
  rw [posted_post (hlabels.clients ▸ hs)]
  rw [← hkey] at hlast
  exact hlast.clear hc (horder.known _ p hp) (placeLabel_none_not_turn _)

end MergeTurn.Service
