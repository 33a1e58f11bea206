import MergeTurn.Proofs.Service.Beats

set_option autoImplicit false

/-!
# What is heard and what is sent

The docket knows nothing of results that are passed over because the same one was sent last. A
transcript has these too, so it says in which order results of checks were heard and sent. What the
service remembers of a lane is the last result that was sent to it, and no more; what follows from
this is said of transcripts alone.

## Main definitions

* `MergeTurn.Entry` — a stamp of the docket, or a result that is passed over.
* `MergeTurn.lastHeard`, `MergeTurn.verdicts` — what was heard last on a lane, and all that was sent
  to it.
* `MergeTurn.Docket.Accurate` — results are passed over exactly if they were sent last, and only what
  is held back is sent.
* `MergeTurn.Docket.Reflects` — what the docket knows is what the transcript says.
* `MergeTurn.Service.transcript` — the entries of a run of beats.

## Main results

* `MergeTurn.Docket.Accurate.reflects` — the docket knows what an accurate transcript says.
* `MergeTurn.Service.Recorded.transcript` — the transcript of a run is accurate, and all that is
  handled is heard in it.
-/

namespace MergeTurn

/-- An entry of a transcript. -/
inductive Entry where
  /-- A result is passed over. -/
  | passed (c : HeadChecks)
  /-- Something happens to a lane. -/
  | noted (x : Stamp)
deriving DecidableEq

namespace Entry

/-- The result that is heard, whether it is taken or passed over. -/
def heard? : Entry → Option HeadChecks
  | .passed c => some c
  | .noted ⟨_, .taken c⟩ => some c
  | .noted _ => none

/-- The result that is sent, if one is. -/
def sent? : Entry → Option HeadChecks
  | .passed _ => none
  | .noted x => x.mark.sent?

/-- What happens to a lane, if something does. -/
def stamp? : Entry → Option Stamp
  | .passed _ => none
  | .noted x => some x

/-- A result is heard on a lane. -/
def hears (l : Lane) (e : Entry) : Bool :=
  e.heard?.any (·.lane == l)

end Entry

/-- The last entry of a result that was heard on a lane. -/
def lastHeard (l : Lane) (log : List Entry) : Option Entry :=
  (log.filter (·.hears l)).getLast?

/-- The results that were sent to a lane, in order. -/
def verdicts (l : Lane) (log : List Entry) : List Verdict :=
  ((log.filterMap Entry.sent?).filter (·.lane == l)).map (·.verdict)

variable {l : Lane} {log more : List Entry} {e : Entry} {d : Docket} {c : HeadChecks} {time : Nat}

/-- What was heard last after one more entry. -/
lemma lastHeard_concat (l : Lane) (log : List Entry) (e : Entry) :
    lastHeard l (log ++ [e]) = if e.hears l then some e else lastHeard l log := by
  unfold lastHeard
  split_ifs with he <;> simp [he]

/-- What was heard last in two stretches was heard last in the second, if anything was. -/
lemma lastHeard_append (l : Lane) (log more : List Entry) :
    lastHeard l (log ++ more) = (lastHeard l more).or (lastHeard l log) := by
  simp [lastHeard, List.getLast?_append]

/-- What was heard last on a lane was heard on it. -/
lemma hears_of_lastHeard (h : lastHeard l log = some e) : e ∈ log ∧ e.hears l = true :=
  List.mem_filter.1 (List.mem_of_getLast? h)

/-- What is heard on a lane is a result of this lane. -/
lemma Entry.hears_iff : e.hears l = true ↔ ∃ c, e.heard? = some c ∧ c.lane = l := by
  simp [hears, Option.any_eq_true]

/-- What was sent to a lane in two stretches was sent in the first and then in the second. -/
lemma verdicts_append (l : Lane) (log more : List Entry) :
    verdicts l (log ++ more) = verdicts l log ++ verdicts l more := by
  simp [verdicts]

/-- What an entry sends to a lane. -/
lemma verdicts_singleton (l : Lane) (e : Entry) :
    verdicts l [e] = ((e.sent?.filter (·.lane == l)).map (·.verdict)).toList := by
  unfold verdicts
  cases hsent : e.sent? with
  | none => simp [hsent]
  | some c => by_cases hl : c.lane = l <;> simp [hsent, hl, Option.filter]

/-- Nothing is sent to a lane to which nothing happens. -/
lemma verdicts_of_quiet (h : ∀ x, .noted x ∈ log → x.mark.lane ≠ l) : verdicts l log = [] := by
  simp only [verdicts, List.map_eq_nil_iff, List.filter_eq_nil_iff, List.mem_filterMap, beq_iff_eq]
  rintro c ⟨e, he, hsent⟩ rfl
  cases e with
  | passed c' => cases hsent
  | noted x =>
    refine h x he ?_
    obtain ⟨time, mark⟩ := x
    cases mark <;> cases hsent
    rfl

/-! ## Accurate transcripts -/

namespace Docket

/-- What is known after one more entry. -/
def enter (d : Docket) : Entry → Docket
  | .passed _ => d
  | .noted x => d.note x

/-- An entry is accurate: a result is passed over exactly if it was sent last, and what is sent was
held back. -/
def Admits (d : Docket) : Entry → Prop
  | .passed c => d.delivered c.lane = some c.verdict
  | .noted ⟨_, .taken c⟩ => d.delivered c.lane ≠ some c.verdict
  | .noted ⟨_, .sent c⟩ => ∃ time, d.waiting c.lane = some (time, c)
  | .noted ⟨_, .headed _ _⟩ => True

/-- Every entry is accurate after those before it. -/
def Accurate : Docket → List Entry → Prop
  | _, [] => True
  | d, e :: log => d.Admits e ∧ Accurate (d.enter e) log

/-- What is known from a transcript is known from its stamps. -/
lemma foldl_enter (d : Docket) (log : List Entry) :
    log.foldl enter d = (log.filterMap Entry.stamp?).foldl note d := by
  induction log generalizing d with
  | nil => rfl
  | cons e log ih =>
    cases e with
    | passed c => exact ih d
    | noted x => exact ih (d.note x)

/-- A transcript is accurate if it is up to some entry and from then on. -/
lemma accurate_append :
    Accurate d (log ++ more) ↔ Accurate d log ∧ Accurate (log.foldl enter d) more := by
  induction log generalizing d with
  | nil => simp [Accurate]
  | cons e log ih => simp only [List.cons_append, Accurate, List.foldl_cons, ih, and_assoc]

/-- The docket knows what a transcript says: which result was sent last to each lane, and which one
is held back. -/
structure Reflects (log : List Entry) (d : Docket) : Prop where
  delivered : ∀ l, d.delivered l = (verdicts l log).getLast?
  /-- What is held back is not what was sent last. -/
  fresh : ∀ l time c, d.waiting l = some (time, c) → d.delivered l ≠ some c.verdict
  /-- While a result is held back, whatever is heard is what was sent last. -/
  heard : ∀ l time c, d.waiting l = some (time, c) →
    lastHeard l log = some (.noted ⟨time, .taken c⟩) ∨
      ∃ c', lastHeard l log = some (.passed c') ∧ d.delivered l = some c'.verdict
  /-- What is held back was taken, and nothing has happened to its lane since. -/
  source : ∀ l time c, d.waiting l = some (time, c) → c.lane = l ∧
    ∃ before between, log = before ++ .noted ⟨time, .taken c⟩ :: between ∧
      ∀ x, .noted x ∈ between → x.mark.lane ≠ l

namespace Reflects

/-- Nothing is known from nothing. -/
lemma empty : Reflects [] Docket.empty :=
  ⟨fun _ => rfl, by simp [Docket.empty], by simp [Docket.empty], by simp [Docket.empty]⟩

variable (h : Reflects log d)
include h

/-- A result of a lane that is passed over changes nothing that is known. -/
lemma passed (hc : d.delivered c.lane = some c.verdict) : Reflects (log ++ [.passed c]) d where
  delivered l := by
    rw [verdicts_append, verdicts_singleton]
    simpa [Entry.sent?] using h.delivered l
  fresh := h.fresh
  heard l time c' hwaiting := by
    rw [lastHeard_concat]
    split_ifs with hears
    · obtain ⟨c'', hheard, hl⟩ := Entry.hears_iff.1 hears
      cases hheard
      exact .inr ⟨c, rfl, hl ▸ hc⟩
    · exact h.heard l time c' hwaiting
  source l time c' hwaiting := by
    obtain ⟨hlane, before, between, rfl, hquiet⟩ := h.source l time c' hwaiting
    refine ⟨hlane, before, between ++ [.passed c], by simp, fun x hx => hquiet x ?_⟩
    simpa using hx

/-- What happens to one lane is nothing to what is held back for another. -/
lemma source_of_ne {x : Stamp} (hx : x.mark.lane ≠ l) (hwaiting : d.waiting l = some (time, c)) :
    c.lane = l ∧ ∃ before between, log ++ [.noted x] = before ++ .noted ⟨time, .taken c⟩ :: between ∧
      ∀ y, .noted y ∈ between → y.mark.lane ≠ l := by
  obtain ⟨hlane, before, between, rfl, hquiet⟩ := h.source l time c hwaiting
  refine ⟨hlane, before, between ++ [.noted x], by simp, fun y hy => ?_⟩
  rcases List.mem_append.1 hy with hy | hy
  · exact hquiet y hy
  · cases List.mem_singleton.1 hy
    exact hx

omit h in
/-- What happens to one lane is nothing to what was heard last on another. -/
lemma lastHeard_of_ne {x : Stamp} (hx : x.mark.lane ≠ l) :
    lastHeard l (log ++ [.noted x]) = lastHeard l log := by
  rw [lastHeard_concat, if_neg]
  rw [Entry.hears_iff]
  rintro ⟨c, hheard, rfl⟩
  obtain ⟨time, mark⟩ := x
  cases mark <;> cases hheard
  exact hx rfl

/-- The docket knows what is noted. -/
lemma noted {x : Stamp} (hx : d.Admits (.noted x)) : Reflects (log ++ [.noted x]) (d.note x) := by
  have hdelivered : ∀ l, (d.note x).delivered l = (verdicts l (log ++ [.noted x])).getLast? := by
    intro l
    rw [verdicts_append, verdicts_singleton]
    obtain ⟨time, mark⟩ := x
    cases mark with
    | sent c =>
      by_cases hl : c.lane = l
      · subst hl
        simp [note, Entry.sent?, Mark.sent?, Option.filter]
      · simpa [note, Entry.sent?, Mark.sent?, Option.filter, hl, Ne.symm hl] using h.delivered l
    | taken c => simpa [note, Entry.sent?, Mark.sent?] using h.delivered l
    | headed l' n => simpa [note, Entry.sent?, Mark.sent?] using h.delivered l
  -- Only a result that is taken is held back for its lane afterwards.
  have hcases : ∀ l time c, (d.note x).waiting l = some (time, c) →
      (x = ⟨time, .taken c⟩ ∧ c.lane = l) ∨
        (x.mark.lane ≠ l ∧ d.waiting l = some (time, c) ∧
          (d.note x).delivered l = d.delivered l) := by
    intro l time c hwaiting
    rw [waiting_note] at hwaiting
    split_ifs at hwaiting with hl
    · obtain ⟨since, mark⟩ := x
      cases mark <;> cases hwaiting
      exact .inl ⟨rfl, hl⟩
    · refine .inr ⟨hl, hwaiting, ?_⟩
      obtain ⟨since, mark⟩ := x
      cases mark with
      | sent c => exact Function.update_of_ne (Ne.symm hl) ..
      | taken c => rfl
      | headed l' n => rfl
  refine ⟨hdelivered, fun l time c hwaiting => ?_, fun l time c hwaiting => ?_,
    fun l time c hwaiting => ?_⟩
  · rcases hcases l time c hwaiting with ⟨rfl, rfl⟩ | ⟨-, hbefore, hsame⟩
    · exact hx
    · rw [hsame]
      exact h.fresh l time c hbefore
  · rcases hcases l time c hwaiting with ⟨rfl, rfl⟩ | ⟨hl, hbefore, hsame⟩
    · exact .inl (by rw [lastHeard_concat, if_pos (Entry.hears_iff.2 ⟨c, rfl, rfl⟩)])
    · rw [lastHeard_of_ne hl, hsame]
      exact h.heard l time c hbefore
  · rcases hcases l time c hwaiting with ⟨rfl, rfl⟩ | ⟨hl, hbefore, -⟩
    · exact ⟨rfl, log, [], rfl, by simp⟩
    · exact h.source_of_ne hl hbefore

end Reflects

/-- What is known from an accurate transcript is what it says. -/
theorem Accurate.reflects (h : Accurate empty log) : Reflects log (log.foldl enter empty) := by
  induction log using List.reverseRecOn with
  | nil => exact .empty
  | append_singleton log e ih =>
    obtain ⟨hlog, he, -⟩ := accurate_append.1 h
    rw [List.foldl_append]
    cases e with
    | passed c => exact (ih hlog).passed he
    | noted x => exact (ih hlog).noted he

/-- What is sent was held back, and the docket knew what the transcript said before. -/
lemma Accurate.before_sent {before after : List Entry}
    (h : Accurate empty (before ++ .noted ⟨time, .sent c⟩ :: after)) :
    ∃ d since, Reflects before d ∧ d.waiting c.lane = some (since, c) := by
  obtain ⟨hbefore, ⟨since, hwaiting⟩, -⟩ := accurate_append.1 h
  exact ⟨_, since, hbefore.reflects, hwaiting⟩

end Docket

/-! ## Transcripts of runs -/

namespace Service

variable {σ : Type} [Store σ]

omit [Store σ] in
/-- The result of checks that a beat handles, if it does. -/
def handled? (x : Beat σ) (s : Service σ) : Option HeadChecks :=
  match x with
  | .task i =>
    match s.tasks[i]? with
    | some ⟨.noticeChecks, .checks c⟩ => some c
    | _ => none
  | _ => none

omit [Store σ] in
/-- The result of checks that a beat passes over, because it was delivered last for its lane. -/
def passedOver? (x : Beat σ) (s : Service σ) : Option HeadChecks :=
  (s.handled? x).filter fun c => s.dispatch.delivered[c.lane]? = some c.verdict

/-- The entries of a beat. -/
def entries (d : Docket) (x : Beat σ) (s : Service σ) : List Entry :=
  (s.passedOver? x).toList.map .passed ++ (s.stamps d x).map .noted

/-- The entries of beats after the stamps of the past. -/
def transcript : List (Beat σ) → List Stamp → Service σ → List Entry
  | [], _, _ => []
  | x :: beats, past, s =>
    s.entries (Docket.read past) x ++
      transcript beats (past ++ s.stamps (Docket.read past) x) (s.beat x)

/-- The results of checks that beats handle, in order. -/
def handled : List (Beat σ) → Service σ → List HeadChecks
  | [], _ => []
  | x :: beats, s => (s.handled? x).toList ++ handled beats (s.beat x)

variable {d : Docket} {s : Service σ} {past : List Stamp}

/-- The stamps of a beat are those of its entries. -/
lemma stamps_entries (d : Docket) (x : Beat σ) (s : Service σ) :
    (s.entries d x).filterMap Entry.stamp? = s.stamps d x := by
  simp [entries, List.filterMap_map, Function.comp_def, Entry.stamp?]

/-- What is known after a beat is known from its stamps. -/
lemma foldl_entries (d : Docket) (x : Beat σ) (s : Service σ) :
    (s.entries d x).foldl Docket.enter d = (s.stamps d x).foldl Docket.note d := by
  rw [Docket.foldl_enter, stamps_entries]

/-- The entries of a result that is handled: it is passed over, or taken, or taken and sent. -/
lemma entries_checks (h : Tallied d s) {i : Nat} {c : HeadChecks}
    (htask : s.tasks[i]? = some ⟨.noticeChecks, .checks c⟩) :
    (d.delivered c.lane = some c.verdict ∧ s.entries d (.task i) = [.passed c]) ∨
    (d.delivered c.lane ≠ some c.verdict ∧
      (s.entries d (.task i) = [.noted ⟨s.now, .taken c⟩] ∨
        s.entries d (.task i) = [.noted ⟨s.now, .taken c⟩, .noted ⟨s.now, .sent c⟩])) := by
  simp only [entries, passedOver?, handled?, htask, h.delivered, stamps, marks, taskMarks,
    checksMarks]
  by_cases hdelivered : d.delivered c.lane = some c.verdict
  · exact .inl ⟨hdelivered, by simp [hdelivered]⟩
  · refine .inr ⟨hdelivered, ?_⟩
    by_cases hdebounce : s.rules.debounce = 0
    · exact .inr (by simp [hdelivered, hdebounce])
    · exact .inl (by simp [hdelivered, hdebounce])

/-- The entries of a beat that handles no result: an alarm rings, or a lane has another head, or
nothing happens. -/
lemma entries_of_handled?_none {x : Beat σ} (hx : s.handled? x = none) :
    s.entries d x = [] ∨
    (∃ (i : Nat) (a : Alarm), s.alarms[i]? = some a ∧
      s.entries d x = [.noted ⟨s.now, .sent a.checks⟩]) ∨
      ∃ l n, s.entries d x = [.noted ⟨s.now, .headed l n⟩] := by
  have hentries : s.entries d x = (s.marks d x).map fun mark => .noted ⟨s.now, mark⟩ := by
    simp [entries, passedOver?, hx, stamps]
  rw [hentries]
  cases x with
  | alarm i =>
    simp only [marks]
    cases ha : s.alarms[i]? with
    | none => exact .inl rfl
    | some a =>
      dsimp only
      split_ifs
      · exact .inr (.inl ⟨i, a, ha, rfl⟩)
      · exact .inl rfl
  | task i =>
    simp only [marks]
    cases htask : s.tasks[i]? with
    | none => exact .inl rfl
    | some task =>
      obtain ⟨handler, event⟩ := task
      cases handler <;> cases event <;> try exact .inl rfl
      case noticeHead.lane e =>
        simp only [taskMarks, headMarks]
        split
        · exact .inl rfl
        · split_ifs
          · exact .inl rfl
          · exact .inr (.inr ⟨_, _, rfl⟩)
      case noticeChecks.checks c => simp [handled?, htask] at hx
  | call => exact .inl rfl
  | check => exact .inl rfl
  | event => exact .inl rfl
  | tick => exact .inl rfl
  | outside => exact .inl rfl

omit [Store σ] in
/-- A beat that handles a result runs its task. -/
lemma exists_task_of_handled? {x : Beat σ} {c : HeadChecks} (hx : s.handled? x = some c) :
    ∃ i, x = .task i ∧ s.tasks[i]? = some ⟨.noticeChecks, .checks c⟩ := by
  unfold handled? at hx
  split at hx
  · split at hx
    · next htask =>
      cases hx
      exact ⟨_, rfl, htask⟩
    · cases hx
  · cases hx

/-- The entries of a beat are accurate. -/
lemma Tallied.accurate_entries (h : Tallied d s) (x : Beat σ) :
    Docket.Accurate d (s.entries d x) := by
  cases hx : s.handled? x with
  | none =>
    obtain hnone | ⟨i, a, ha, hsent⟩ | ⟨l, n, hheaded⟩ := entries_of_handled?_none (d := d) hx
    · rw [hnone]
      trivial
    · obtain ⟨-, -, time, -, hwaiting, -⟩ := h.matched a (List.mem_of_getElem? ha)
      rw [hsent]
      exact ⟨⟨time, hwaiting⟩, trivial⟩
    · rw [hheaded]
      exact ⟨trivial, trivial⟩
  | some c =>
    obtain ⟨i, rfl, htask⟩ := exists_task_of_handled? hx
    obtain ⟨hdelivered, hpassed⟩ | ⟨hdelivered, htaken | hsent⟩ := entries_checks h htask
    · rw [hpassed]
      exact ⟨hdelivered, trivial⟩
    · rw [htaken]
      exact ⟨hdelivered, trivial⟩
    · rw [hsent]
      exact ⟨hdelivered, ⟨s.now, Function.update_self ..⟩, trivial⟩

/-- What is heard in a beat is what it handles. -/
lemma Tallied.heard_entries (h : Tallied d s) (x : Beat σ) :
    (s.entries d x).filterMap Entry.heard? = (s.handled? x).toList := by
  cases hx : s.handled? x with
  | none =>
    obtain hnone | ⟨i, a, -, hsent⟩ | ⟨l, n, hheaded⟩ := entries_of_handled?_none (d := d) hx
    · rw [hnone]
      rfl
    · rw [hsent]
      rfl
    · rw [hheaded]
      rfl
  | some c =>
    obtain ⟨i, rfl, htask⟩ := exists_task_of_handled? hx
    obtain ⟨-, hpassed⟩ | ⟨-, htaken | hsent⟩ := entries_checks h htask
    · rw [hpassed]
      rfl
    · rw [htaken]
      rfl
    · rw [hsent]
      rfl

/-- The journal of beats has the stamps of their transcript. -/
lemma journal_fst (beats : List (Beat σ)) (past : List Stamp) (s : Service σ) :
    (journal beats past s).1 = past ++ (transcript beats past s).filterMap Entry.stamp? := by
  induction beats generalizing past s with
  | nil => simp [journal, transcript]
  | cons x beats ih => simp [journal, transcript, ih, stamps_entries]

/-- The transcript of beats is accurate, and all that they handle is heard in it. -/
lemma Recorded.transcript (h : Recorded past s) (beats : List (Beat σ)) :
    Docket.Accurate (Docket.read past) (transcript beats past s) ∧
      (transcript beats past s).filterMap Entry.heard? = handled beats s := by
  induction beats generalizing past s with
  | nil => exact ⟨trivial, rfl⟩
  | cons x beats ih =>
    have hnext : Recorded (past ++ s.stamps (Docket.read past) x) (s.beat x) := (h.journal [x]).1
    obtain ⟨haccurate, hheard⟩ := ih hnext
    constructor
    · refine Docket.accurate_append.2 ⟨h.tallied.accurate_entries x, ?_⟩
      rwa [foldl_entries, ← Docket.read_append]
    · rw [Service.transcript, handled, List.filterMap_append, h.tallied.heard_entries, hheard]

end Service

end MergeTurn
