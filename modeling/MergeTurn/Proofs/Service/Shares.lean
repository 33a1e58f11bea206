import MergeTurn.Proofs.Service.Lockstep
import MergeTurn.Proofs.Service.Messenger
import MergeTurn.Proofs.Service.Pages

set_option autoImplicit false

/-!
# The share of a repository

One store, one registry, one list of tasks and one list of alarms serve all repositories. What has
to do with a single one of them is its share. Keys of different repositories differ as long as their
names hold no colons, so a request about one repository changes nothing that is read for another,
and a notice to people of one changes nothing that people of another have been told.

## Main definitions

* `MergeTurn.Books.AlikeFor` — two books read alike for a repository.
* `MergeTurn.Messenger.only` — what people of a repository have been told, and are about to be.
* `MergeTurn.Messenger.Moves` — the messenger goes on with something about a repository.
* `MergeTurn.Service.share` — all of a service that has to do with a repository.

## Main results

* `MergeTurn.Desk.book_alike`, `unbook_alike` — the desk does the same to books that read alike.
* `MergeTurn.Desk.serve_alike_of_ne` — and nothing to what is read for other repositories.
* `MergeTurn.Messenger.Moves.only_of_ne` — nor do people of other repositories hear of anything.

## Design

Generations of alarms are shared by all repositories. A share therefore has the messenger of the
service instead, which does without them.
-/

namespace MergeTurn

/-! ## Books -/

namespace Books

/-- Two books read alike for a repository: its lanes are the same, and so are those booked. -/
structure AlikeFor (r : Repo) (k k' : Books) : Prop where
  list : ∀ branch, k.list (r.lane branch).storeKey = k'.list (r.lane branch).storeKey
  member : ∀ n, k.member r.storeKey n = k'.member r.storeKey n

namespace AlikeFor

variable {k k' : Books} {l : Lane} {r : Repo}

/-- Every lane of the repository reads alike. -/
lemma lane (h : AlikeFor r k k') (hl : l.repo = r) : k.list l.storeKey = k'.list l.storeKey := by
  subst hl
  exact h.list l.branch

/-- They do so after a booking. -/
lemma book (h : AlikeFor l.repo k k') (b : Booking) :
    AlikeFor l.repo ((k.addMember l.repo.storeKey b.number).append l.storeKey b)
      ((k'.addMember l.repo.storeKey b.number).append l.storeKey b) where
  list branch := by
    simp only [append, list_addMember, Function.update_apply, h.lane rfl, h.list]
  member n := by
    simp only [member_append, addMember, h.member]

/-- They do so after a removal. -/
lemma unbook (h : AlikeFor l.repo k k') (n : PullNumber) :
    AlikeFor l.repo ((k.removeFirst l.storeKey n).removeMember l.repo.storeKey n)
      ((k'.removeFirst l.storeKey n).removeMember l.repo.storeKey n) where
  list branch := by
    simp only [removeFirst, list_removeMember, Function.update_apply, h.lane rfl, h.list]
  member n := by
    simp only [member_removeFirst, removeMember, h.member]

end AlikeFor

end Books

namespace Desk

variable {l : Lane} {r : Repo} {m m' : Memory}

/-- Stores that read alike for a repository answer a booking alike, and go on to read alike. -/
lemma book_alike (hl : l.repo = r) (b : Booking) (hrefusal : m.refusal? = m'.refusal?)
    (h : m.books.AlikeFor r m'.books) :
    (book l b m).answer = (book l b m').answer ∧
      (book l b m).published = (book l b m').published ∧
      (book l b m).store.books.AlikeFor r (book l b m').store.books := by
  subst hl
  have hlane : m.books.list l.storeKey = m'.books.list l.storeKey := h.lane rfl
  have hanswer : (book l b m).answer = (book l b m').answer := by
    rw [book_answer, book_answer, hrefusal, hlane, h.member]
  have hends := book_memory l b m
  have hends' := book_memory l b m'
  generalize book l b m = turn at hanswer hends ⊢
  generalize book l b m' = turn' at hanswer hends' ⊢
  cases hends with
  | kept ha hk =>
    cases hends' with
    | kept _ hk' => exact ⟨hanswer, rfl, by rw [hk, hk']; exact h⟩
    | added => exact absurd hanswer (ha _)
  | added _ _ hk =>
    cases hends' with
    | kept ha' => exact absurd hanswer.symm (ha' _)
    | added _ _ hk' => exact ⟨hanswer, by rw [hlane], by rw [hk, hk']; exact h.book b⟩

/-- So they do with a removal. -/
lemma unbook_alike (hl : l.repo = r) (n : PullNumber) (closed : Bool)
    (hrefusal : m.refusal? = m'.refusal?) (h : m.books.AlikeFor r m'.books) :
    (unbook l n closed m).answer = (unbook l n closed m').answer ∧
      (unbook l n closed m).published = (unbook l n closed m').published ∧
      (unbook l n closed m).store.books.AlikeFor r (unbook l n closed m').store.books := by
  subst hl
  have hanswer : (unbook l n closed m).answer = (unbook l n closed m').answer := by
    rw [unbook_answer, unbook_answer, hrefusal, h.lane (l := l) rfl]
  have hends := unbook_memory l n closed m
  have hends' := unbook_memory l n closed m'
  generalize unbook l n closed m = turn at hanswer hends ⊢
  generalize unbook l n closed m' = turn' at hanswer hends' ⊢
  cases hends with
  | kept ha hk =>
    cases hends' with
    | kept _ hk' => exact ⟨hanswer, rfl, by rw [hk, hk']; exact h⟩
    | removed => exact absurd hanswer (ha _ _)
  | removed _ _ _ _ hk =>
    cases hends' with
    | kept ha' => exact absurd hanswer.symm (ha' _ _)
    | removed _ _ _ _ hk' =>
      cases hanswer
      exact ⟨rfl, rfl, by rw [hk, hk']; exact h.unbook n⟩

/-- A request about one repository changes nothing that is read for another. -/
lemma serve_alike_of_ne {x : Request} (hx : x.lane.repo.Colonless) (hr : r.Colonless)
    (hne : x.lane.repo ≠ r) (m : Memory) : (serve x m).store.books.AlikeFor r m.books where
  list branch := (serve_frame m x).2.list _ fun hkey =>
    hne (congrArg Lane.repo (Lane.storeKey_inj (l := r.lane branch) hr hx hkey)).symm
  member n := (serve_frame m x).2.member _ (fun hkey =>
    hne (Repo.storeKey_inj hr hx hkey).symm) n

end Desk

/-! ## Messengers -/

namespace Messenger

variable {r : Repo} {l : Lane} (v : Messenger)

/-- What people have been told, and are about to be, of the lanes of a repository. -/
def only (r : Repo) (v : Messenger) : Messenger where
  heads l := if l.repo = r then v.heads l else none
  delivered l := if l.repo = r then v.delivered l else none
  waiting := v.waiting.filter (·.2.lane.repo = r)
  sent := v.sent.filter (·.call.lane.repo = r)

/-- What is known of lanes of the repository changes with one of them. -/
lemma restrict_update {α : Type} (hl : l.repo = r) (f : Lane → Option α) (x : Option α) :
    (fun l' => if l'.repo = r then Function.update f l x l' else none) =
      Function.update (fun l' => if l'.repo = r then f l' else none) l x := by
  funext l'
  by_cases h : l' = l
  · rw [h, if_pos hl, Function.update_self, Function.update_self]
  · rw [Function.update_of_ne h, Function.update_of_ne h]

/-- Other lanes do not matter. -/
lemma restrict_update_of_ne {α : Type} (hl : l.repo ≠ r) (f : Lane → Option α) (x : Option α) :
    (fun l' => if l'.repo = r then Function.update f l x l' else none) =
      fun l' => if l'.repo = r then f l' else none := by
  funext l'
  split_ifs with h
  · exact Function.update_of_ne (fun hlane : l' = l => hl (hlane ▸ h)) ..
  · rfl

/-! ### What concerns the repository -/

/-- What is held back for a lane of the repository is given up. -/
lemma only_release (r : Repo) (l : Lane) : (v.release l).only r = (v.only r).release l :=
  Messenger.ext rfl rfl (List.filter_comm ..) rfl

/-- A notice about a lane of the repository is sent. -/
lemma only_send {x : Notice} (hx : x.lane.repo = r) : (v.send x).only r = (v.only r).send x := by
  simp only [only, send, List.filter_append]
  simp [hx]

/-- The head of a lane of the repository is told. -/
lemma only_tell (hl : l.repo = r) (n : PullNumber) (username : String) :
    (v.tell l n username).only r = (v.only r).tell l n username := by
  have hheads : (v.only r).heads l = v.heads l := if_pos hl
  unfold tell
  rw [hheads]
  split_ifs
  · rfl
  · rw [only_send _ (show (Notice.head l n username).lane.repo = r from hl), only_release]
    congr 2
    exact Messenger.ext (restrict_update hl ..) rfl rfl rfl

/-- A lane of the repository has no head. -/
lemma only_vacate (hl : l.repo = r) : (v.vacate l).only r = (v.only r).vacate l := by
  unfold vacate
  rw [only_release]
  congr 1
  exact Messenger.ext (restrict_update hl ..) rfl rfl rfl

/-- A result for a lane of the repository is delivered. -/
lemma only_deliver {c : HeadChecks} (hc : c.lane.repo = r) :
    (v.deliver c).only r = (v.only r).deliver c := by
  unfold deliver
  rw [only_send _ (show c.notice.lane.repo = r from hc)]
  congr 1
  exact Messenger.ext rfl (restrict_update hc ..) rfl rfl

/-- A result for a lane of the repository is taken. -/
lemma only_take {c : HeadChecks} (hc : c.lane.repo = r) (now delay : Nat) :
    (v.take now delay c).only r = (v.only r).take now delay c := by
  have hdelivered : (v.only r).delivered c.lane = v.delivered c.lane := if_pos hc
  unfold take
  rw [hdelivered]
  split_ifs
  · rfl
  · rw [only_deliver _ hc, only_release]
  · refine Messenger.ext rfl rfl ?_ rfl
    rw [← only_release]
    simp only [only, List.filter_append]
    simp [hc]

/-- The first result that is held back of all is one of the repository. -/
lemma only_ring {x : Nat × HeadChecks} {rest : List (Nat × HeadChecks)}
    (hwaiting : v.waiting = x :: rest) (hx : x.2.lane.repo = r) :
    v.ring.only r = (v.only r).ring := by
  have hfirst : (v.only r).waiting = x :: rest.filter (·.2.lane.repo = r) := by
    simp [only, hwaiting, hx]
  simp only [ring, hwaiting, hfirst]
  exact only_deliver _ hx

/-! ### What concerns another one -/

/-- What is held back for a lane of another repository is given up. -/
lemma only_release_of_ne (hl : l.repo ≠ r) : (v.release l).only r = v.only r := by
  refine Messenger.ext rfl rfl ?_ rfl
  simp only [only, release, List.filter_filter]
  refine List.filter_congr fun x _ => ?_
  by_cases hx : x.2.lane.repo = r
  · simp [hx, show x.2.lane ≠ l from fun hlane => hl (hlane ▸ hx)]
  · simp [hx]

/-- A notice about a lane of another repository is sent. -/
lemma only_send_of_ne {x : Notice} (hx : x.lane.repo ≠ r) : (v.send x).only r = v.only r := by
  simp only [only, send, List.filter_append]
  simp [hx]

/-- A result for a lane of another repository is delivered. -/
lemma only_deliver_of_ne {c : HeadChecks} (hc : c.lane.repo ≠ r) :
    (v.deliver c).only r = v.only r := by
  unfold deliver
  rw [only_send_of_ne _ (show c.notice.lane.repo ≠ r from hc)]
  exact Messenger.ext rfl (restrict_update_of_ne hc ..) rfl rfl

/-- A messenger has gone on with something that has to do with a repository, if with anything. -/
inductive Moves (r : Repo) (v : Messenger) : Messenger → Prop
  | still : Moves r v v
  | tell {l : Lane} (hl : l.repo = r) (n : PullNumber) (username : String) :
    Moves r v (v.tell l n username)
  | vacate {l : Lane} (hl : l.repo = r) : Moves r v (v.vacate l)
  | take {c : HeadChecks} (hc : c.lane.repo = r) (now delay : Nat) : Moves r v (v.take now delay c)
  | ring {x : Nat × HeadChecks} {rest : List (Nat × HeadChecks)} (hwaiting : v.waiting = x :: rest)
    (hx : x.2.lane.repo = r) : Moves r v v.ring

namespace Moves

variable {v} {v' : Messenger} {q : Repo}

/-- Nothing has changed for other repositories. -/
lemma only_of_ne (h : Moves q v v') (hne : q ≠ r) : v'.only r = v.only r := by
  cases h with
  | still => rfl
  | @tell l hl n username =>
    have hl' : l.repo ≠ r := hl ▸ hne
    unfold Messenger.tell
    split_ifs
    · rfl
    · rw [only_send_of_ne _ (show (Notice.head l n username).lane.repo ≠ r from hl'),
        only_release_of_ne _ hl']
      exact Messenger.ext (restrict_update_of_ne hl' ..) rfl rfl rfl
  | @vacate l hl =>
    have hl' : l.repo ≠ r := hl ▸ hne
    unfold Messenger.vacate
    rw [only_release_of_ne _ hl']
    exact Messenger.ext (restrict_update_of_ne hl' ..) rfl rfl rfl
  | @take c hc now delay =>
    have hc' : c.lane.repo ≠ r := hc ▸ hne
    unfold Messenger.take
    split_ifs
    · rfl
    · rw [only_deliver_of_ne _ hc', only_release_of_ne _ hc']
    · rw [← only_release_of_ne v hc']
      refine Messenger.ext rfl rfl ?_ rfl
      simp only [only, List.filter_append]
      simp [hc']
  | @ring x rest hwaiting hx =>
    have hx' : x.2.lane.repo ≠ r := hx ▸ hne
    simp only [Messenger.ring, hwaiting]
    rw [only_deliver_of_ne _ hx']
    refine Messenger.ext rfl rfl ?_ rfl
    simp [only, hwaiting, hx']

/-- A messenger that has to do with one repository only goes on to do so. -/
lemma own (h : Moves r v v') (hv : v.only r = v) : v'.only r = v' := by
  cases h with
  | still => exact hv
  | tell hl n username => rw [only_tell _ hl, hv]
  | vacate hl => rw [only_vacate _ hl, hv]
  | take hc now delay => rw [only_take _ hc, hv]
  | ring hwaiting hx => rw [only_ring _ hwaiting hx, hv]

/-- All that is sent is about the repository. -/
lemma sent (h : Moves r v v') :
    ∃ w, v'.sent = v.sent ++ w ∧ ∀ x ∈ w, x.call.lane.repo = r := by
  have hnone : ∃ w, v.sent = v.sent ++ w ∧ ∀ x ∈ w, x.call.lane.repo = r :=
    ⟨[], (List.append_nil _).symm, nofun⟩
  have hone : ∀ x : Notice, x.lane.repo = r →
      ∃ w, v.sent ++ [⟨x, none⟩] = v.sent ++ w ∧ ∀ x ∈ w, x.call.lane.repo = r :=
    fun x hx => ⟨_, rfl, fun y hy => by rw [List.mem_singleton.1 hy]; exact hx⟩
  cases h with
  | still => exact hnone
  | tell hl n username =>
    unfold Messenger.tell
    split_ifs
    · exact hnone
    · exact hone _ hl
  | vacate hl => exact hnone
  | @take c hc now delay =>
    unfold Messenger.take
    split_ifs
    · exact hnone
    · exact hone c.notice hc
    · exact hnone
  | @ring x rest hwaiting hx =>
    simp only [Messenger.ring, hwaiting]
    exact hone x.2.notice hx

end Moves

end Messenger

/-! ## Shares -/

/-- The repository that an event is about. -/
def Event.repo : Event → Repo
  | .lane e => e.lane.repo
  | .checks c => c.lane.repo
  | .failed f => f.lane.repo

/-- The repository that a task is about. -/
def Task.repo (task : Task) : Repo := task.event.repo

/-- All of a service that has to do with one repository, but for the time. -/
@[ext]
structure Share where
  rules : Rules
  refusal : Option StoreError
  /-- The bookings of each branch. -/
  lists : String → List Booking
  members : PullNumber → Bool
  records : PullNumber → Option Pull
  tasks : List Task
  messenger : Messenger

namespace Service

/-- The share that a repository has of a service. -/
def share (r : Repo) (s : Service Memory) : Share where
  rules := s.rules
  refusal := s.store.refusal?
  lists branch := s.store.books.list (r.lane branch).storeKey
  members n := s.store.books.member r.storeKey n
  records n := s.registry.get? ⟨r, n⟩
  tasks := s.tasks.filter (·.repo = r)
  messenger := s.messenger.only r

variable {r : Repo} {s t s' t' : Service Memory}

/-- The result that the first alarm is for is the first one that is held back. -/
lemma waiting_cons {a : Alarm} {rest : List Alarm} (h : s.alarms = a :: rest) :
    s.messenger.waiting = (a.due, a.checks) :: rest.map fun a => (a.due, a.checks) := by
  simp only [messenger, h, List.map_cons]

/-- Where shares are the same the books read alike. -/
lemma alikeFor_of_share (h : s.share r = t.share r) : s.store.books.AlikeFor r t.store.books :=
  ⟨congrFun (congrArg Share.lists h), congrFun (congrArg Share.members h)⟩

/-- Telling people something changes nothing else in a share. -/
lemma Alike.share_eq (h : Alike s t) (hrules : t.rules = s.rules) :
    t.share r = { s.share r with messenger := t.messenger.only r } := by
  simp only [share, h.store, h.registry, h.tasks, hrules]

/-- The share after a pull request was recorded. -/
lemma share_record (p : Pull) (s : Service Memory) :
    (s.withRegistry (·.record p)).share r = { s.share r with
      records := fun n => if ⟨r, n⟩ = p.key then some p else (s.share r).records n } :=
  Share.ext rfl rfl rfl rfl (funext fun _ => Registry.get?_record ..) rfl rfl

/-- The share after a pull request was forgotten. -/
lemma share_forget (key : PullKey) (s : Service Memory) :
    (s.withRegistry (·.forget key)).share r = { s.share r with
      records := fun n => if ⟨r, n⟩ = key then none else (s.share r).records n } :=
  Share.ext rfl rfl rfl rfl (funext fun _ => Registry.get?_forget ..) rfl rfl

/-- The share after an event was published. -/
lemma share_publish (e : Event) (s : Service Memory) :
    (s.publish e).share r = { s.share r with
      tasks := (s.share r).tasks ++
        if e.repo = r then (handlers e).map fun h => ⟨h, e⟩ else [] } := by
  refine Share.ext rfl rfl rfl rfl rfl ?_ rfl
  simp only [share, publish, List.filter_append, List.filter_map]
  split_ifs with he
  · simp [Function.comp_def, Task.repo, he]
  · simp [Function.comp_def, Task.repo, he]

end Service

end MergeTurn
