import MergeTurn.Proofs.Service.Clock

set_option autoImplicit false

/-!
# Who is told what, without generations

An alarm carries a generation, and rings in vain if another one is pending for its lane. But no
such alarm is ever left: with a result that is given up its alarm is taken away. So the generations
can be forgotten. What remains is a list of results with the times at which they are to be sent, and
each operation on notices is a function of that list and of what people have been told.

## Main definitions

* `MergeTurn.Messenger` — what people have been told, and what they are about to be.
* `MergeTurn.Messenger.tell`, `vacate`, `take`, `ring` — how that changes.
* `MergeTurn.Service.messenger` — all that the notices of a service depend on.
* `MergeTurn.Service.Quiet` — no task is left, and notices arrive.

## Main results

* `MergeTurn.Service.Tallied.messenger_notifyHead`, `messenger_vacate`, `messenger_onChecks` — what
  tasks do to the messenger of a service.
* `MergeTurn.Service.Quiet.ringNext`, `Quiet.advance`, `Quiet.drain` — what time does to it.

## Design

Notices are taken to arrive, since whoever is told of a result must have been reached.
-/

namespace MergeTurn

/-- What people have been told, and what they are about to be. -/
@[ext]
structure Messenger where
  /-- The head of each lane that was told last. -/
  heads : Lane → Option PullNumber
  /-- The result of checks that was sent last for each lane. -/
  delivered : Lane → Option Verdict
  /-- The results that are held back, with the times at which they are to be sent, in order. -/
  waiting : List (Nat × HeadChecks)
  sent : List (Attempt Notice)

namespace Messenger

/-- Gives up the result that is held back for a lane. -/
def release (l : Lane) (v : Messenger) : Messenger :=
  { v with waiting := v.waiting.filter (·.2.lane ≠ l) }

/-- Sends a notice. -/
def send (x : Notice) (v : Messenger) : Messenger :=
  { v with sent := v.sent ++ [⟨x, none⟩] }

/-- Tells the head of a lane, unless it was told last. -/
def tell (l : Lane) (n : PullNumber) (username : String) (v : Messenger) : Messenger :=
  if v.heads l = some n then v
  else ({ v with heads := Function.update v.heads l (some n) }.release l).send (.head l n username)

/-- Notes that a lane has no head. -/
def vacate (l : Lane) (v : Messenger) : Messenger :=
  { v with heads := Function.update v.heads l none }.release l

/-- Sends a result of checks. -/
def deliver (c : HeadChecks) (v : Messenger) : Messenger :=
  { v with delivered := Function.update v.delivered c.lane (some c.verdict) }.send c.notice

/-- Takes a result of checks at a time, to be sent after a delay, unless it was sent last. -/
def take (now delay : Nat) (c : HeadChecks) (v : Messenger) : Messenger :=
  if v.delivered c.lane = some c.verdict then v
  else if delay = 0 then (v.release c.lane).deliver c
  else { v with waiting := (v.release c.lane).waiting ++ [(now + delay, c)] }

/-- Sends the first of the results that are held back. -/
def ring (v : Messenger) : Messenger :=
  match v.waiting with
  | [] => v
  | x :: rest => { v with waiting := rest }.deliver x.2

/-- Sends results in order up to a time, at most a number of them. -/
def ringUntil (time : Nat) : Nat → Messenger → Messenger
  | 0, v => v
  | n + 1, v =>
    match v.waiting with
    | [] => v
    | x :: _ => if x.1 ≤ time then ringUntil time n v.ring else v

/-- Sends a number of results in order. -/
def ringAll : Nat → Messenger → Messenger
  | 0, v => v
  | n + 1, v => ringAll n v.ring

/-- A result that is taken twice at one time is sent or held back once. -/
lemma take_take (now delay : Nat) (c : HeadChecks) (v : Messenger) :
    (v.take now delay c).take now delay c = v.take now delay c := by
  by_cases hdelivered : v.delivered c.lane = some c.verdict
  · simp only [take, if_pos hdelivered]
  · by_cases hdelay : delay = 0
    · have hnow : ((v.release c.lane).deliver c).delivered c.lane = some c.verdict :=
        Function.update_self ..
      simp only [take, if_neg hdelivered, if_pos hdelay, if_pos hnow]
    · simp only [take, if_neg hdelivered, if_neg hdelay, release]
      congr 1
      simp [List.filter_append, List.filter_filter]

end Messenger

namespace Service

/-- All that the notices of a service depend on, and the notices. -/
def messenger {σ : Type} (s : Service σ) : Messenger where
  heads l := s.dispatch.heads[l]?
  delivered l := s.dispatch.delivered[l]?
  waiting := s.alarms.map fun a => (a.due, a.checks)
  sent := s.ledger.notices

/-- What has nothing to do with notices leaves their messenger as it is. -/
lemma Unmoved.messenger_eq {σ : Type} {s t : Service σ} (h : Unmoved s t) :
    t.messenger = s.messenger := by
  simp only [messenger, h.dispatch, h.alarms, h.notices]

section Notices

variable {σ : Type} {d : Docket} {s : Service σ} {l : Lane}

/-- A notice is sent. -/
lemma messenger_notify (h : s.clients.notice = fun _ => none) (l : Lane) (n : PullNumber)
    (x : Notice) : (s.notify l n x).messenger = s.messenger.send x := by
  simp only [notify, h]
  rfl

/-- Only the result that is held back for the lane is given up.

**Proof sketch.** If there is one, the generation that is pending is that of its alarm, and no other
alarm has it. -/
lemma Tallied.messenger_cancel (h : Tallied d s) (l : Lane) :
    (s.cancel l).messenger = s.messenger.release l := by
  have hlane : ∀ a ∈ s.alarms, ∀ g, s.dispatch.pending[l]? = some g →
      (a.generation ≠ g ↔ a.checks.lane ≠ l) := by
    intro a ha g hg
    have hgeneration := (h.matched a ha).1
    refine not_congr ⟨fun hag => h.distinct _ _ _ (hag ▸ hgeneration) hg, fun hl => ?_⟩
    rw [hl, hg] at hgeneration
    exact (Option.some.inj hgeneration).symm
  unfold Service.cancel
  cases hpending : s.dispatch.pending[l]? with
  | none =>
    have hnone : ∀ a ∈ s.alarms, a.checks.lane ≠ l := by
      rintro a ha rfl
      cases hpending.symm.trans (h.matched a ha).1
    refine Messenger.ext rfl rfl (List.filter_eq_self.2 fun x hx => ?_).symm rfl
    obtain ⟨a, ha, rfl⟩ := List.mem_map.1 hx
    exact decide_eq_true (hnone a ha)
  | some g =>
    refine Messenger.ext rfl rfl ?_ rfl
    simp only [messenger, Messenger.release, List.filter_map]
    congr 1
    refine List.filter_congr fun a ha => ?_
    exact Bool.eq_iff_iff.2 (bne_iff_ne.trans ((hlane a ha g hpending).trans
      decide_eq_true_iff.symm))

/-- A head is told. -/
lemma Tallied.messenger_notifyHead (h : Tallied d s) (hnotice : s.clients.notice = fun _ => none)
    (l : Lane) (n : PullNumber) (username : String) :
    (s.notifyHead l n username).messenger = s.messenger.tell l n username := by
  unfold Service.notifyHead Messenger.tell
  by_cases htold : s.dispatch.heads[l]? = some n
  · rw [if_pos htold, if_pos (show s.messenger.heads l = some n from htold)]
  · rw [if_neg htold, if_neg (show ¬ s.messenger.heads l = some n from htold)]
    have hheads : ∀ l', (s.dispatch.heads.insert l n)[l']? =
        Function.update (fun l => s.dispatch.heads[l]?) l (some n) l' := by
      intro l'
      simp only [Std.ExtTreeMap.getElem?_insert, Std.compare_eq_iff_eq, Function.update_apply,
        eq_comm (a := l)]
    have hcancelled := (h.withHeads hheads).messenger_cancel l
    have hclients : ({ s with dispatch := { s.dispatch with
        heads := s.dispatch.heads.insert l n } }.cancel l).clients.notice = fun _ => none := by
      obtain ⟨pending, alarms, hwrites⟩ := cancel_writes
        { s with dispatch := { s.dispatch with heads := s.dispatch.heads.insert l n } } l
      rw [hwrites]
      exact hnotice
    dsimp only
    rw [messenger_notify hclients, hcancelled]
    congr 2
    exact Messenger.ext (funext hheads) rfl rfl rfl

/-- A lane is found to have no head. -/
lemma Tallied.messenger_vacate (h : Tallied d s) (l : Lane) :
    (s.vacate l).messenger = s.messenger.vacate l := by
  have hheads : ∀ l', (s.dispatch.heads.erase l)[l']? =
      Function.update (fun l => s.dispatch.heads[l]?) l none l' := by
    intro l'
    simp only [Std.ExtTreeMap.getElem?_erase, Std.compare_eq_iff_eq, Function.update_apply,
      eq_comm (a := l)]
  refine ((h.withHeads hheads).messenger_cancel l).trans (congrArg (Messenger.release l) ?_)
  exact Messenger.ext (funext hheads) rfl rfl rfl

/-- A result that is held back is sent when its alarm rings. -/
lemma messenger_ring {a : Alarm}
    (hpending : s.dispatch.pending[a.checks.lane]? = some a.generation)
    (hnotice : s.clients.notice = fun _ => none) :
    (s.ring a).messenger = s.messenger.deliver a.checks := by
  have hdelivered : ∀ l,
      (s.dispatch.delivered.insert a.checks.lane a.checks.verdict)[l]? = Function.update
        (fun l => s.dispatch.delivered[l]?) a.checks.lane (some a.checks.verdict) l := by
    intro l
    simp only [Std.ExtTreeMap.getElem?_insert, Std.compare_eq_iff_eq, Function.update_apply,
      eq_comm (a := a.checks.lane)]
  unfold ring
  dsimp only
  rw [if_pos hpending]
  refine (messenger_notify ?_ ..).trans ?_
  · exact hnotice
  · exact congrArg (Messenger.send a.checks.notice)
      (Messenger.ext rfl (funext hdelivered) rfl rfl)

/-- A result of checks is taken. -/
lemma Tallied.messenger_onChecks (h : Tallied d s) (hnotice : s.clients.notice = fun _ => none)
    (c : HeadChecks) :
    (s.onChecks c).messenger = s.messenger.take s.now s.rules.debounce c := by
  unfold onChecks Messenger.take
  by_cases hdelivered : s.dispatch.delivered[c.lane]? = some c.verdict
  · rw [if_pos hdelivered, if_pos (show s.messenger.delivered c.lane = _ from hdelivered)]
  · rw [if_neg hdelivered, if_neg (show ¬ s.messenger.delivered c.lane = _ from hdelivered)]
    have hcancelled := h.messenger_cancel c.lane
    obtain ⟨pending, alarms, hwrites⟩ := s.cancel_writes c.lane
    rw [hwrites] at hcancelled
    rw [hwrites, ← hcancelled]
    dsimp only
    split_ifs
    · refine (messenger_ring ?_ ?_).trans rfl
      · simp
      · exact hnotice
    · refine Messenger.ext rfl rfl ?_ rfl
      simp [messenger]

end Notices

/-! ## Time -/

section Time

variable {d : Docket} {s t : Service Memory}

/-- The service has no task left, and notices arrive. -/
structure Quiet (s : Service Memory) : Prop where
  idle : s.tasks = []
  willing : s.clients.notice = fun _ => none
  tallied : ∃ d, Tallied d s

/-- The first alarm rings, and then the service is quiet again. -/
lemma Quiet.ringNext (h : Quiet s) :
    Quiet s.ringNext ∧ s.ringNext.messenger = s.messenger.ring ∧
      s.ringNext.alarms = s.alarms.tail := by
  obtain ⟨d, hd⟩ := h.tallied
  cases halarms : s.alarms with
  | nil =>
    have hnext : s.ringNext = s := by simp only [Service.ringNext, halarms]
    rw [hnext, halarms]
    exact ⟨h, by simp [Messenger.ring, messenger, halarms], rfl⟩
  | cons a rest =>
    obtain ⟨hpasses, htasks, hrest, -⟩ := hd.ringNext_eq h.idle halarms
    obtain ⟨pending, delivered, notices, failures, hwrites, -⟩ :=
      ring_writes { s with alarms := rest, now := a.due } a
    have hring : ({ s with alarms := rest, now := a.due }.ring a).tasks = [] := by
      rw [hwrites]
      exact h.idle
    have hnext : s.ringNext = { s with alarms := rest, now := a.due }.ring a := by
      simp only [Service.ringNext, halarms]
      exact settle_of_idle hring
    refine ⟨⟨htasks, ?_, hpasses.tallied hd⟩, ?_, hrest⟩
    · rw [hnext, hwrites]
      exact h.willing
    · rw [hnext]
      refine (messenger_ring ?_ ?_).trans ?_
      · exact (hd.matched a (by simp [halarms])).1
      · exact h.willing
      · simp only [messenger, Messenger.ring, halarms, List.map_cons]

/-- Alarms ring in order up to a time. -/
lemma Quiet.ringUntil (h : Quiet s) (time n : Nat) :
    (s.ringUntil time n).messenger = s.messenger.ringUntil time n := by
  induction n generalizing s with
  | zero => rfl
  | succ n ih =>
    obtain ⟨hquiet, hring, -⟩ := h.ringNext
    unfold Service.ringUntil Messenger.ringUntil
    cases halarms : s.alarms with
    | nil => simp [messenger, halarms]
    | cons a rest =>
      have hwaiting : s.messenger.waiting = (a.due, a.checks) :: rest.map fun a =>
        (a.due, a.checks) := by simp [messenger, halarms]
      simp only [hwaiting]
      split_ifs
      · rw [ih hquiet, hring]
      · rfl

/-- A number of alarms ring in order. -/
lemma Quiet.ringAll (h : Quiet s) (n : Nat) :
    (s.ringAll n).messenger = s.messenger.ringAll n := by
  induction n generalizing s with
  | zero => rfl
  | succ n ih =>
    obtain ⟨hquiet, hring, -⟩ := h.ringNext
    rw [Service.ringAll, Messenger.ringAll, ih hquiet, hring]

/-- What people are told in a number of milliseconds depends on the messenger and on the time. -/
lemma Quiet.advance (h : Quiet s) (ms : Nat) : (s.advance ms).messenger =
    s.messenger.ringUntil (s.now + ms) s.messenger.waiting.length := by
  have hlength : s.messenger.waiting.length = s.alarms.length := by simp [messenger]
  rw [hlength, ← h.ringUntil]
  simp only [Service.advance, settle_of_idle h.idle]
  rfl

/-- What people are told until nothing is left to do depends on the messenger. -/
lemma Quiet.drain (h : Quiet s) :
    s.drain.messenger = s.messenger.ringAll s.messenger.waiting.length := by
  have hlength : s.messenger.waiting.length = s.alarms.length := by simp [messenger]
  rw [hlength, ← h.ringAll, Service.drain, settle_of_idle h.idle]

end Time

end Service

end MergeTurn
