import MergeTurn.Proofs.Service.Docket
import MergeTurn.Proofs.Service.Schedules

set_option autoImplicit false

/-!
# What the service holds back

The service remembers for each lane who was told last to be its head and which result of checks was
sent last, and it has an alarm for each result that is held back, with a generation that says whether
it still counts. All of this is what the docket says, which knows nothing of alarms and generations.

## Main definitions

* `MergeTurn.Service.Tallied` — the service remembers what the docket says.
* `MergeTurn.Service.withhold` — the service with one more result held back.

## Main results

* `MergeTurn.Service.Tallied.size_pending` — as many results are pending as there are alarms.
* `MergeTurn.Service.Tallied.cancel`, `notifyHead`, `vacate`, `withhold`, `send`, `later` — what the
  service does, and what the docket says of it.

## Design

No two lanes have the same generation pending, and no two alarms are for one lane. The alarm of a
result that is given up is taken away with it, so an alarm that rings always has the generation that
is pending.
-/

namespace MergeTurn

namespace Service

variable {σ : Type}

/-- The service remembers what the docket says, and holds back each result with an alarm of its
own. -/
structure Tallied (d : Docket) (s : Service σ) : Prop where
  heads : ∀ l, s.dispatch.heads[l]? = d.heads l
  delivered : ∀ l, s.dispatch.delivered[l]? = d.delivered l
  /-- An alarm waits for the end of the delay of the result that is held back for its lane. -/
  matched : ∀ a ∈ s.alarms, s.dispatch.pending[a.checks.lane]? = some a.generation ∧
    s.now ≤ a.due ∧ ∃ time ≤ s.now, d.waiting a.checks.lane = some (time, a.checks) ∧
      a.due = time + s.rules.debounce
  alarmed : ∀ l, (d.waiting l).isSome ∨ s.dispatch.pending[l]?.isSome →
    ∃ a ∈ s.alarms, a.checks.lane = l
  lanes : (s.alarms.map (·.checks.lane)).Nodup
  /-- Alarms ring in the order in which they came about. -/
  sorted : s.alarms.Pairwise (·.due ≤ ·.due)
  distinct : ∀ (l l' : Lane) (g : Nat), s.dispatch.pending[l]? = some g →
    s.dispatch.pending[l']? = some g → l = l'
  older : ∀ (l : Lane) (g : Nat), s.dispatch.pending[l]? = some g → g < s.dispatch.nextGeneration

/-- A service that has just been started has nothing to hold back. -/
lemma tallied_start (rules : Rules) (store : σ) (registry : Registry) (room : Nat)
    (clients : Clients) :
    Tallied Docket.empty { start rules store registry room with clients } := by
  constructor <;> simp [start, Dispatch.empty, Docket.empty]

/-- The service with a result held back in the place of an older one. -/
def withhold (c : HeadChecks) (s : Service σ) : Service σ :=
  let t := s.cancel c.lane
  { t with
    dispatch := { t.dispatch with
      pending := t.dispatch.pending.insert c.lane t.dispatch.nextGeneration
      nextGeneration := t.dispatch.nextGeneration + 1 }
    alarms := t.alarms ++ [⟨t.now + t.rules.debounce, t.dispatch.nextGeneration, c⟩] }

/-- A result that was not sent last is held back. Without a delay its alarm rings at once. -/
lemma onChecks_eq {c : HeadChecks} {s : Service σ}
    (h : s.dispatch.delivered[c.lane]? ≠ some c.verdict) :
    s.onChecks c = if s.rules.debounce = 0
      then (s.withhold c).ringAt (s.cancel c.lane).alarms.length else s.withhold c := by
  obtain ⟨pending, alarms, hwrites⟩ := s.cancel_writes c.lane
  unfold onChecks withhold
  rw [if_neg h, hwrites]
  dsimp only
  split_ifs with hdebounce
  · have hrest : ∀ a : Alarm, (alarms ++ [a]).eraseIdx alarms.length = alarms := fun a => by
      simp [List.eraseIdx_append_of_length_le]
    simp [ringAt, hdebounce, hrest]
  · rfl

namespace Tallied

variable {d : Docket} {s t : Service σ} {l : Lane} {c : HeadChecks} {time : Nat}

/-- Only alarms, the clock and what people have been told matter. -/
lemma congr (h : Tallied d s) (hrules : t.rules = s.rules) (hdispatch : t.dispatch = s.dispatch)
    (halarms : t.alarms = s.alarms) (hnow : t.now = s.now) : Tallied d t := by
  obtain ⟨heads, delivered, matched, alarmed, lanes, sorted, distinct, older⟩ := h
  rw [← hdispatch] at heads delivered matched alarmed distinct older
  rw [← halarms] at matched alarmed lanes sorted
  rw [← hrules, ← hnow] at matched
  exact ⟨heads, delivered, matched, alarmed, lanes, sorted, distinct, older⟩

/-- A result that is held back is about its lane, and has an alarm. -/
lemma alarm (h : Tallied d s) (hwaiting : d.waiting l = some (time, c)) :
    c.lane = l ∧
      ∃ a ∈ s.alarms, a.checks = c ∧ a.due = time + s.rules.debounce ∧ s.now ≤ a.due := by
  obtain ⟨a, ha, rfl⟩ := h.alarmed l (.inl (by simp [hwaiting]))
  obtain ⟨-, hnow, time', -, hwaiting', hdue⟩ := h.matched a ha
  obtain ⟨rfl, rfl⟩ := Prod.mk.inj (Option.some.inj (hwaiting'.symm.trans hwaiting))
  exact ⟨rfl, a, ha, rfl, hdue, hnow⟩

/-- No result is held back for longer than the delay. -/
lemma prompt (h : Tallied d s) (hwaiting : d.waiting l = some (time, c)) :
    s.now ≤ time + s.rules.debounce := by
  obtain ⟨-, a, -, -, hdue, hnow⟩ := h.alarm hwaiting
  exact hdue ▸ hnow

/-- A lane with nothing held back has no alarm. -/
lemma idle (h : Tallied d s) (hwaiting : d.waiting l = none) :
    s.dispatch.pending[l]? = none ∧ ∀ a ∈ s.alarms, a.checks.lane ≠ l := by
  have hno : ∀ a ∈ s.alarms, a.checks.lane ≠ l := by
    rintro a ha rfl
    obtain ⟨-, -, time, -, hsome, -⟩ := h.matched a ha
    cases hwaiting.symm.trans hsome
  refine ⟨Option.not_isSome_iff_eq_none.1 fun hsome => ?_, hno⟩
  obtain ⟨a, ha, hlane⟩ := h.alarmed l (.inr hsome)
  exact hno a ha hlane

/-- As many results are pending as there are alarms. -/
lemma size_pending (h : Tallied d s) : s.dispatch.pending.size = s.alarms.length := by
  have hkeys : s.dispatch.pending.keys.Perm (s.alarms.map (·.checks.lane)) := by
    refine (List.perm_ext_iff_of_nodup ?_ h.lanes).2 fun l => ?_
    · exact s.dispatch.pending.nodup_keys
    · rw [Std.ExtTreeMap.mem_keys, Std.ExtTreeMap.mem_iff_isSome_getElem?, List.mem_map]
      constructor
      · exact fun hl => h.alarmed l (.inr hl)
      · rintro ⟨a, ha, rfl⟩
        rw [(h.matched a ha).1]
        rfl
  simpa using hkeys.length_eq

/-- The result that is held back for a lane is not held back any more, and its alarm is gone. -/
lemma free (h : Tallied d s) {l : Lane} {alarms : List Alarm} (hsublist : alarms.Sublist s.alarms)
    (hleft : ∀ a ∈ s.alarms, a ∈ alarms ↔ a.checks.lane ≠ l) :
    Tallied { d with waiting := Function.update d.waiting l none } { s with
      dispatch := { s.dispatch with pending := s.dispatch.pending.erase l }
      alarms } := by
  have hself : (s.dispatch.pending.erase l)[l]? = none := by simp
  have hother : ∀ l', l' ≠ l → (s.dispatch.pending.erase l)[l']? = s.dispatch.pending[l']? := by
    intro l' hl'
    simp [Std.ExtTreeMap.getElem?_erase, hl'.symm]
  have hpending : ∀ {l' : Lane} {g : Nat}, (s.dispatch.pending.erase l)[l']? = some g →
      s.dispatch.pending[l']? = some g := by
    intro l' g hg
    have hne : l' ≠ l := by
      rintro rfl
      cases hself.symm.trans hg
    exact (hother l' hne).symm.trans hg
  constructor
  case heads => exact h.heads
  case delivered => exact h.delivered
  case matched =>
    intro a ha
    have ha' := hsublist.subset ha
    have hlane := (hleft a ha').1 ha
    obtain ⟨hgeneration, hnow, time, htime, hwaiting, hdue⟩ := h.matched a ha'
    exact ⟨(hother _ hlane).trans hgeneration, hnow, time, htime,
      (Function.update_of_ne hlane _ _).trans hwaiting, hdue⟩
  case alarmed =>
    intro l' hl'
    have hlane : l' ≠ l := by
      rintro rfl
      simp at hl'
    simp only [Function.update_of_ne hlane, hother l' hlane] at hl'
    obtain ⟨a, ha, rfl⟩ := h.alarmed l' hl'
    exact ⟨a, (hleft a ha).2 hlane, rfl⟩
  case lanes => exact h.lanes.sublist (hsublist.map _)
  case sorted => exact h.sorted.sublist hsublist
  case distinct => exact fun l₁ l₂ g h₁ h₂ => h.distinct l₁ l₂ g (hpending h₁) (hpending h₂)
  case older => exact fun l' g hg => h.older l' g (hpending hg)

/-- The result that is held back for a lane is given up, if there is one. -/
lemma cancel (h : Tallied d s) (l : Lane) :
    Tallied { d with waiting := Function.update d.waiting l none } (s.cancel l) := by
  unfold Service.cancel
  cases hpending : s.dispatch.pending[l]? with
  | none =>
    have hwaiting : d.waiting l = none := by
      by_contra hsome
      obtain ⟨a, ha, rfl⟩ := h.alarmed l (.inl (Option.isSome_iff_ne_none.2 hsome))
      cases hpending.symm.trans (h.matched a ha).1
    rw [← hwaiting, Function.update_eq_self]
    exact h
  | some generation =>
    refine h.free List.filter_sublist fun a ha => ?_
    -- Its alarm is the one with the generation that is pending.
    have hgeneration := (h.matched a ha).1
    simp only [List.mem_filter, ha, true_and, bne_iff_ne]
    refine not_congr ⟨fun hgen => ?_, fun hlane => ?_⟩
    · exact h.distinct _ _ _ (hgen ▸ hgeneration) hpending
    · rw [hlane, hpending] at hgeneration
      exact (Option.some.inj hgeneration).symm

/-- Who was told to be a head has nothing to do with what is held back. -/
lemma withHeads (h : Tallied d s) {heads : Std.ExtTreeMap Lane PullNumber}
    {f : Lane → Option PullNumber} (hf : ∀ l, heads[l]? = f l) :
    Tallied { d with heads := f } { s with dispatch := { s.dispatch with heads } } :=
  ⟨hf, h.delivered, h.matched, h.alarmed, h.lanes, h.sorted, h.distinct, h.older⟩

/-- A new head is told. -/
lemma notifyHead (h : Tallied d s) {n : PullNumber} (hnew : s.dispatch.heads[l]? ≠ some n)
    (username : String) :
    Tallied (d.note ⟨s.now, .headed l (some n)⟩) (s.notifyHead l n username) := by
  have hheads : ∀ l', (s.dispatch.heads.insert l n)[l']? =
      Function.update d.heads l (some n) l' := by
    intro l'
    simp only [Std.ExtTreeMap.getElem?_insert, Std.compare_eq_iff_eq, Function.update_apply,
      h.heads, eq_comm (a := l)]
  have hcancelled := (h.withHeads hheads).cancel l
  unfold Service.notifyHead
  rw [if_neg hnew]
  obtain ⟨error, events, hwrites⟩ := notify_writes
    ({ s with dispatch := { s.dispatch with
      heads := s.dispatch.heads.insert l n } }.cancel l) l n (.head l n username)
  dsimp only
  rw [hwrites]
  exact hcancelled.congr rfl rfl rfl rfl

/-- A lane is found to have no head. -/
lemma vacate (h : Tallied d s) (l : Lane) :
    Tallied (d.note ⟨s.now, .headed l none⟩) (s.vacate l) := by
  have hheads : ∀ l', (s.dispatch.heads.erase l)[l']? = Function.update d.heads l none l' := by
    intro l'
    simp only [Std.ExtTreeMap.getElem?_erase, Std.compare_eq_iff_eq, Function.update_apply,
      h.heads, eq_comm (a := l)]
  exact (h.withHeads hheads).cancel l

/-- A result is held back in the place of an older one. -/
lemma withhold (h : Tallied d s) (c : HeadChecks) :
    Tallied (d.note ⟨s.now, .taken c⟩) (s.withhold c) := by
  have hcancelled := h.cancel c.lane
  obtain ⟨pending, alarms, hwrites⟩ := s.cancel_writes c.lane
  have hnow : (s.cancel c.lane).now = s.now := by rw [hwrites]
  have hrules : (s.cancel c.lane).rules = s.rules := by rw [hwrites]
  have hdocket : d.note ⟨s.now, .taken c⟩ = { d with
      waiting := Function.update (Function.update d.waiting c.lane none) c.lane
        (some (s.now, c)) } := by
    rw [Function.update_idem]
    rfl
  obtain ⟨hidle, hnone⟩ := hcancelled.idle (l := c.lane) (Function.update_self ..)
  unfold Service.withhold
  generalize s.cancel c.lane = t at hcancelled hnow hrules hidle hnone
  generalize Function.update d.waiting c.lane none = waiting at hcancelled hdocket
  have hother : ∀ l' g, l' ≠ c.lane →
      (t.dispatch.pending.insert c.lane g)[l']? = t.dispatch.pending[l']? := by
    intro l' g hl'
    simp [Std.ExtTreeMap.getElem?_insert, hl'.symm]
  rw [hdocket]
  constructor
  case heads => exact hcancelled.heads
  case delivered => exact hcancelled.delivered
  case matched =>
    intro a ha
    rcases List.mem_append.1 ha with ha | ha
    · obtain ⟨hgeneration, hnow, time, htime, hwaiting, hdue⟩ := hcancelled.matched a ha
      have hlane := hnone a ha
      exact ⟨(hother _ _ hlane).trans hgeneration, hnow, time, htime,
        (Function.update_of_ne hlane _ _).trans hwaiting, hdue⟩
    · obtain rfl := List.mem_singleton.1 ha
      refine ⟨by simp, Nat.le_add_right _ _, s.now, Nat.le_of_eq hnow.symm,
        Function.update_self .., ?_⟩
      exact congrArg (· + t.rules.debounce) hnow
  case alarmed =>
    intro l hl
    by_cases hlane : l = c.lane
    · exact ⟨_, List.mem_append_right _ List.mem_cons_self, hlane.symm⟩
    · simp only [Function.update_of_ne hlane, hother l _ hlane] at hl
      obtain ⟨a, ha, hal⟩ := hcancelled.alarmed l hl
      exact ⟨a, List.mem_append_left _ ha, hal⟩
  case lanes =>
    rw [List.map_append, List.map_singleton]
    refine List.nodup_append.2 ⟨hcancelled.lanes, List.nodup_singleton _, fun l hl l' hl' => ?_⟩
    obtain ⟨a, ha, rfl⟩ := List.mem_map.1 hl
    rw [List.mem_singleton.1 hl']
    exact hnone a ha
  case sorted =>
    refine List.pairwise_append.2 ⟨hcancelled.sorted, List.pairwise_singleton .., ?_⟩
    intro a ha b hb
    obtain ⟨-, -, time, htime, -, hdue⟩ := hcancelled.matched a ha
    rw [List.mem_singleton.1 hb, hdue]
    exact Nat.add_le_add_right htime _
  case distinct =>
    intro l₁ l₂ g h₁ h₂
    have hfresh : ∀ l, t.dispatch.pending[l]? ≠ some t.dispatch.nextGeneration :=
      fun l hl => Nat.lt_irrefl _ (hcancelled.older l _ hl)
    simp only [Std.ExtTreeMap.getElem?_insert, Std.compare_eq_iff_eq] at h₁ h₂
    split_ifs at h₁ h₂ with e₁ e₂ e₂
    · exact e₁.symm.trans e₂
    · cases h₁
      exact absurd h₂ (hfresh l₂)
    · cases h₂
      exact absurd h₁ (hfresh l₁)
    · exact hcancelled.distinct l₁ l₂ g h₁ h₂
  case older =>
    intro l g hg
    simp only [Std.ExtTreeMap.getElem?_insert, Std.compare_eq_iff_eq] at hg
    split_ifs at hg
    · cases hg
      exact Nat.lt_succ_self _
    · exact Nat.lt_succ_of_lt (hcancelled.older l g hg)

/-- The clock may go on while no alarm is due. -/
lemma later (h : Tallied d s) (hdue : s.alarms.all (s.now < ·.due) = true) :
    Tallied d { s with now := s.now + 1 } := by
  refine ⟨h.heads, h.delivered, fun a ha => ?_, h.alarmed, h.lanes, h.sorted, h.distinct, h.older⟩
  obtain ⟨hgeneration, -, time, htime, hwaiting⟩ := h.matched a ha
  have hnow : s.now < a.due := of_decide_eq_true (List.all_eq_true.1 hdue a ha)
  exact ⟨hgeneration, hnow, time, Nat.le_succ_of_le htime, hwaiting⟩

/-- A result is sent that was held back. -/
lemma send (h : Tallied d s) {i : Nat} {a : Alarm} (ha : s.alarms[i]? = some a) :
    Tallied (d.note ⟨s.now, .sent a.checks⟩) { s with
      dispatch := { s.dispatch with
        pending := s.dispatch.pending.erase a.checks.lane
        delivered := s.dispatch.delivered.insert a.checks.lane a.checks.verdict }
      alarms := s.alarms.eraseIdx i } := by
  have hdelivered : ∀ l, (s.dispatch.delivered.insert a.checks.lane a.checks.verdict)[l]? =
      Function.update d.delivered a.checks.lane (some a.checks.verdict) l := by
    intro l
    simp only [Std.ExtTreeMap.getElem?_insert, Std.compare_eq_iff_eq, Function.update_apply,
      h.delivered, eq_comm (a := a.checks.lane)]
  -- No other alarm is for its lane.
  have hleft : ∀ b ∈ s.alarms, b ∈ s.alarms.eraseIdx i ↔ b.checks.lane ≠ a.checks.lane := by
    intro b hb
    obtain ⟨j, hj⟩ := List.getElem?_of_mem hb
    rw [List.mem_eraseIdx_iff_getElem?]
    constructor
    · rintro ⟨k, hki, hk⟩ hlane
      refine hki ((List.getElem?_inj ?_ h.lanes).1 ?_)
      · simpa using (List.getElem?_eq_some_iff.1 hk).1
      · simp [hk, ha, hlane]
    · intro hlane
      refine ⟨j, fun hji => ?_, hj⟩
      rw [hji, ha] at hj
      cases hj
      exact hlane rfl
  have hfreed := h.free (List.eraseIdx_sublist ..) hleft
  exact ⟨hfreed.heads, hdelivered, hfreed.matched, hfreed.alarmed, hfreed.lanes, hfreed.sorted,
    hfreed.distinct, hfreed.older⟩

end Tallied

end Service

end MergeTurn
