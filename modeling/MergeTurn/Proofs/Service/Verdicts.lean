import Mathlib.Data.List.Chain
import MergeTurn.Proofs.Service.Transcript

set_option autoImplicit false

/-!
# Which results of checks are sent

A result that is heard replaces the one that is held back for its lane, unless it is the one that was
sent last: then it is passed over, and what is held back stays so. And of what was sent to a lane only
the last result is known, so an older one may be sent once more. Both are said exactly here: which
transcripts send the newest result only, and which send no result twice.

## Main definitions

* `MergeTurn.NewestWins`, `MergeTurn.NoneOverlooked` — only the newest result is sent; no result is
  passed over while another one is held back that is sent.
* `MergeTurn.AtMostOnce`, `MergeTurn.Forgets` — no result is sent twice to a lane; one is sent again
  that was sent before the last one.
* `MergeTurn.Service.Verbatim` — a transcript has all that was handled and all that was told.

## Main results

* `MergeTurn.Docket.Accurate.newestWins_iff`, `MergeTurn.Docket.Accurate.atMostOnce_iff` — what is so
  of accurate transcripts.
* `MergeTurn.Docket.Accurate.isChain_verdicts` — no result is sent to a lane twice in a row.
* `MergeTurn.Service.newest_sent_iff`, `MergeTurn.Service.sent_once_iff` — what is so of runs.
-/

namespace MergeTurn

/-- The newest result wins. -/
structure NewestWins (log : List Entry) : Prop where
  /-- A result that is sent is the one that was heard last on its lane. -/
  last : ∀ before time c after, log = before ++ .noted ⟨time, .sent c⟩ :: after →
    ∃ e c', lastHeard c.lane before = some e ∧ e.heard? = some c' ∧ c'.verdict = c.verdict
  /-- After another result was heard on its lane, no result is sent without being heard again. -/
  superseded : ∀ before e between time c after c',
    log = before ++ e :: between ++ .noted ⟨time, .sent c⟩ :: after →
    e.heard? = some c' → c'.lane = c.lane → c'.verdict ≠ c.verdict →
    ∃ e' ∈ between, ∃ c'', e'.heard? = some c'' ∧ c''.lane = c.lane ∧ c''.verdict = c.verdict

/-- When a result is sent, the last one that was heard on its lane was not passed over. -/
def NoneOverlooked (log : List Entry) : Prop :=
  ∀ before time c after, log = before ++ .noted ⟨time, .sent c⟩ :: after →
    ∀ c', lastHeard c.lane before ≠ some (.passed c')

/-- No result is sent twice to a lane. -/
def AtMostOnce (log : List Entry) : Prop :=
  ∀ l v, (verdicts l log).count v ≤ 1

/-- A result is taken that was sent to its lane before, though not last, and then it is sent again. -/
def Forgets (log : List Entry) : Prop :=
  ∃ before time c between time' after,
    log = before ++ .noted ⟨time, .taken c⟩ :: between ++ .noted ⟨time', .sent c⟩ :: after ∧
    (∀ x, .noted x ∈ between → x.mark.lane ≠ c.lane) ∧
    c.verdict ∈ verdicts c.lane before ∧ (verdicts c.lane before).getLast? ≠ some c.verdict

variable {log before after : List Entry} {e : Entry} {c : HeadChecks} {time : Nat}

/-- Without results that are passed over none is overlooked. -/
lemma noneOverlooked_of_forall (h : ∀ c, .passed c ∉ log) : NoneOverlooked log := by
  rintro before time c after rfl c' hlast
  exact h c' (List.mem_append_left _ (hears_of_lastHeard hlast).1)

/-- One more entry sends a result to a lane, or nothing. -/
lemma verdicts_concat (l : Lane) (log : List Entry) (e : Entry) :
    (∃ time c, e = .noted ⟨time, .sent c⟩ ∧ c.lane = l ∧
      verdicts l (log ++ [e]) = verdicts l log ++ [c.verdict]) ∨
    verdicts l (log ++ [e]) = verdicts l log := by
  rw [verdicts_append, verdicts_singleton]
  cases e with
  | passed c => exact .inr (by simp [Entry.sent?])
  | noted x =>
    obtain ⟨time, mark⟩ := x
    cases mark with
    | sent c =>
      by_cases hl : c.lane = l
      · exact .inl ⟨time, c, rfl, hl, by simp [Entry.sent?, Mark.sent?, Option.filter, hl]⟩
      · exact .inr (by simp [Entry.sent?, Mark.sent?, Option.filter, hl])
    | taken c => exact .inr (by simp [Entry.sent?, Mark.sent?])
    | headed l' n => exact .inr (by simp [Entry.sent?, Mark.sent?])

/-- A result that is sent is one of those that are sent to its lane. -/
lemma mem_verdicts (h : .noted ⟨time, .sent c⟩ ∈ log) : c.verdict ∈ verdicts c.lane log := by
  refine List.mem_map_of_mem (List.mem_filter.2 ⟨List.mem_filterMap.2 ⟨_, h, rfl⟩, ?_⟩)
  exact beq_self_eq_true _

/-- A result that is forgotten stays so. -/
lemma Forgets.append (h : Forgets log) (more : List Entry) : Forgets (log ++ more) := by
  obtain ⟨before, time, c, between, time', after, rfl, hquiet⟩ := h
  exact ⟨before, time, c, between, time', after ++ more, by simp, hquiet⟩

namespace Docket.Accurate

/-! ## The newest result -/

/-- What was heard last when a result is sent: this result, or another one that was sent before and is
passed over. -/
lemma lastHeard_before_sent (h : Accurate empty (before ++ .noted ⟨time, .sent c⟩ :: after)) :
    (∃ since, lastHeard c.lane before = some (.noted ⟨since, .taken c⟩)) ∨
      ∃ c', lastHeard c.lane before = some (.passed c') ∧ c'.verdict ≠ c.verdict := by
  obtain ⟨d, since, hd, hwaiting⟩ := h.before_sent
  rcases hd.heard c.lane since c hwaiting with htaken | ⟨c', hpassed, hdelivered⟩
  · exact .inl ⟨since, htaken⟩
  · refine .inr ⟨c', hpassed, fun hsame => hd.fresh c.lane since c hwaiting ?_⟩
    rw [hdelivered, hsame]

/-- The newest result wins exactly if none is overlooked. -/
theorem newestWins_iff (h : Accurate empty log) : NewestWins log ↔ NoneOverlooked log := by
  constructor
  · rintro hnewest before time c after rfl c' hpassed
    obtain ⟨e, c'', hlast, hheard, hverdict⟩ := hnewest.last before time c after rfl
    rcases h.lastHeard_before_sent with ⟨since, htaken⟩ | ⟨c₁, hlast', hother⟩
    · cases htaken.symm.trans hpassed
    · cases hlast.symm.trans hlast'
      cases hheard
      exact hother hverdict
  · intro hnone
    have hlast : ∀ before time c after, log = before ++ .noted ⟨time, .sent c⟩ :: after →
        ∃ e c', lastHeard c.lane before = some e ∧ e.heard? = some c' ∧ c'.verdict = c.verdict := by
      rintro before time c after rfl
      rcases h.lastHeard_before_sent with ⟨since, htaken⟩ | ⟨c', hpassed, -⟩
      · exact ⟨_, c, htaken, rfl, rfl⟩
      · exact absurd hpassed (hnone before time c after rfl c')
    refine ⟨hlast, ?_⟩
    rintro before e between time c after c' rfl hheard hlane hother
    obtain ⟨e', c'', hlast', hheard', hverdict⟩ := hlast _ time c after rfl
    have he : lastHeard c.lane (before ++ [e]) = some e := by
      rw [lastHeard_concat, if_pos (Entry.hears_iff.2 ⟨c', hheard, hlane⟩)]
    rw [List.append_cons, lastHeard_append, he] at hlast'
    cases hbetween : lastHeard c.lane between with
    | none =>
      rw [hbetween] at hlast'
      cases hlast'
      cases hheard.symm.trans hheard'
      exact absurd hverdict hother
    | some e'' =>
      rw [hbetween] at hlast'
      cases hlast'
      obtain ⟨hmem, hears⟩ := hears_of_lastHeard hbetween
      obtain ⟨c₁, hc₁, hlane₁⟩ := Entry.hears_iff.1 hears
      cases hc₁.symm.trans hheard'
      exact ⟨e', hmem, c'', hheard', hlane₁, hverdict⟩

/-! ## Results that come back -/

/-- No result is sent to a lane twice in a row. -/
theorem isChain_verdicts (h : Accurate empty log) (l : Lane) :
    (verdicts l log).IsChain (· ≠ ·) := by
  induction log using List.reverseRecOn with
  | nil => exact .nil
  | append_singleton log e ih =>
    have hlog := ih (accurate_append.1 h).1
    obtain ⟨time, c, rfl, rfl, hsent⟩ | hnothing := verdicts_concat l log e
    · obtain ⟨d, since, hd, hwaiting⟩ := h.before_sent
      rw [hsent]
      refine List.isChain_append.2 ⟨hlog, .singleton _, fun v hv w hw => ?_⟩
      obtain rfl : c.verdict = w := by simpa using hw
      rintro rfl
      exact hd.fresh _ since c hwaiting ((hd.delivered _).trans hv)
    · rwa [hnothing]

/-- Each result is sent at most once to a lane exactly if none is forgotten.

**Proof sketch.** If the last entry sends a result that was sent before, then it was taken in between,
and the result that was sent last then was another one. -/
theorem atMostOnce_iff (h : Accurate empty log) : AtMostOnce log ↔ ¬ Forgets log := by
  constructor
  · rintro honce ⟨before, time, c, between, time', after, rfl, -, hmem, -⟩
    have hagain : c.verdict ∈ verdicts c.lane
        (.noted ⟨time, .taken c⟩ :: between ++ .noted ⟨time', .sent c⟩ :: after) :=
      mem_verdicts (List.mem_append_right _ List.mem_cons_self)
    have hcount := honce c.lane c.verdict
    rw [List.append_assoc, verdicts_append, List.count_append] at hcount
    have hpos := List.count_pos_iff.2 hmem
    have hpos' := List.count_pos_iff.2 hagain
    omega
  · intro hnone l
    rw [← List.nodup_iff_count_le_one]
    induction log using List.reverseRecOn with
    | nil => exact List.nodup_nil
    | append_singleton log e ih =>
      have hlog := ih (accurate_append.1 h).1 fun hforgets => hnone (hforgets.append _)
      obtain ⟨time, c, rfl, rfl, hsent⟩ | hnothing := verdicts_concat l log e
      · rw [hsent, ← List.concat_eq_append]
        refine List.Nodup.concat (fun hmem => hnone ?_) hlog
        obtain ⟨d, since, hd, hwaiting⟩ := h.before_sent
        obtain ⟨-, before, between, rfl, hquiet⟩ := hd.source _ since c hwaiting
        have hbefore : verdicts c.lane (before ++ .noted ⟨since, .taken c⟩ :: between) =
            verdicts c.lane before := by
          rw [List.append_cons, verdicts_append, verdicts_append, verdicts_of_quiet hquiet]
          simp [verdicts, Entry.sent?, Mark.sent?]
        have hlast := hd.fresh _ since c hwaiting
        rw [hd.delivered, hbefore] at hlast
        rw [hbefore] at hmem
        exact ⟨before, since, c, between, time, [], rfl, hquiet, hmem, hlast⟩
      · rwa [hnothing]

end Docket.Accurate

/-! ## Runs -/

namespace Service

variable {σ : Type} [Store σ]

/-- A transcript has all the results that beats handle and all that people are told, in order. -/
structure Verbatim (beats : List (Beat σ)) (s : Service σ) (log : List Entry) : Prop where
  heard : log.filterMap Entry.heard? = handled beats s
  sent : checksNotices (journal beats [] s).2.ledger.notices =
    (log.filterMap Entry.sent?).map HeadChecks.notice

/-- The transcript of a run of a service that has just been started is accurate and has all. -/
lemma transcript_start (rules : Rules) (store : σ) (registry : Registry) (room : Nat)
    (clients : Clients) (beats : List (Beat σ)) :
    let s := { start rules store registry room with clients }
    Docket.Accurate Docket.empty (transcript beats [] s) ∧
      Verbatim beats s (transcript beats [] s) := by
  intro s
  have hstart : Recorded [] s :=
    ⟨tallied_start rules store registry room clients, trivial, rfl, List.Pairwise.nil, by simp⟩
  obtain ⟨haccurate, hheard⟩ := hstart.transcript beats
  refine ⟨haccurate, hheard, ?_⟩
  have hsent : Entry.sent? = fun e : Entry => e.stamp?.bind (·.mark.sent?) := by
    funext e
    cases e <;> rfl
  rw [(hstart.journal beats).1.notices, journal_fst, List.nil_append, List.filterMap_filterMap,
    hsent]

/-- The newest result of checks is the one that is sent, exactly if none is overlooked. In exact time,
whatever is called or published and however long the tasks are delayed, each result that is sent is
the one that was heard last on its lane, and no result is sent that was superseded by another one,
provided that whenever a result is sent the last one that was heard on its lane was not passed over;
and if that is not so once, the result that is sent then is not the newest. -/
theorem newest_sent_iff (rules : Rules) (store : σ) (registry : Registry) (room : Nat)
    (clients : Clients) (beats : List (Beat σ)) :
    let s := { start rules store registry room with clients }
    Verbatim beats s (transcript beats [] s) ∧
      (NewestWins (transcript beats [] s) ↔ NoneOverlooked (transcript beats [] s)) := by
  intro s
  obtain ⟨haccurate, hverbatim⟩ := transcript_start rules store registry room clients beats
  exact ⟨hverbatim, haccurate.newestWins_iff⟩

/-- A success is sent. Then a failure is held back, and before its time has come the success is heard
once more. -/
def flippingRun : List (Beat Memory) :=
  [.event (.checks (sampleChecks .success)), .task 0, .tick, .tick, .alarm 0,
    .event (.checks (sampleChecks .failure)), .task 0, .tick,
    .event (.checks (sampleChecks .success)), .task 0, .tick, .alarm 0]

/-- The success is passed over, and then the failure is sent, which is not the newest result. -/
theorem not_newestWins_flipping :
    ¬ NewestWins (transcript flippingRun []
      (start ⟨"merge-turn", 2⟩ Memory.volatile Registry.volatile 0)) := by
  have hlog : transcript flippingRun []
      (start ⟨"merge-turn", 2⟩ Memory.volatile Registry.volatile 0) =
      [.noted ⟨0, .taken (sampleChecks .success)⟩, .noted ⟨2, .sent (sampleChecks .success)⟩,
        .noted ⟨2, .taken (sampleChecks .failure)⟩, .passed (sampleChecks .success)] ++
      .noted ⟨4, .sent (sampleChecks .failure)⟩ :: [] := by
    decide +kernel
  intro hnewest
  obtain ⟨e, c, hlast, hheard, hverdict⟩ := hnewest.last _ _ _ _ hlog
  have hpassed : lastHeard (sampleChecks .failure).lane
      [.noted ⟨0, .taken (sampleChecks .success)⟩, .noted ⟨2, .sent (sampleChecks .success)⟩,
        .noted ⟨2, .taken (sampleChecks .failure)⟩, .passed (sampleChecks .success)] =
      some (.passed (sampleChecks .success)) := by
    decide +kernel
  cases hpassed.symm.trans hlast
  cases hheard
  exact absurd hverdict (by decide)

/-- In the run in which a success takes the place of a failure the newest result is sent. -/
theorem newest_sent_replacing :
    NewestWins (transcript replacingRun []
      { start ⟨"merge-turn", 2⟩ Memory.volatile Registry.volatile 0 with clients := .willing }) := by
  refine (newest_sent_iff ⟨"merge-turn", 2⟩ Memory.volatile Registry.volatile 0 .willing
    replacingRun).2.2 (noneOverlooked_of_forall fun c hc => ?_)
  have hlog : transcript replacingRun []
      { start ⟨"merge-turn", 2⟩ Memory.volatile Registry.volatile 0 with clients := .willing } =
      [.noted ⟨0, .taken (sampleChecks .failure)⟩, .noted ⟨1, .taken (sampleChecks .success)⟩,
        .noted ⟨3, .sent (sampleChecks .success)⟩] := by
    decide +kernel
  rw [hlog] at hc
  simp at hc

/-- Each result of checks is sent at most once to a lane, exactly if none is forgotten. In exact time,
whatever is called or published and however long the tasks are delayed, no result is sent to a lane
twice in a row; and it is sent twice at all only if it is heard again after it was sent and then
another one was, and is not replaced before it is sent. -/
theorem sent_once_iff (rules : Rules) (store : σ) (registry : Registry) (room : Nat)
    (clients : Clients) (beats : List (Beat σ)) :
    let s := { start rules store registry room with clients }
    Verbatim beats s (transcript beats [] s) ∧
      (∀ l, (verdicts l (transcript beats [] s)).IsChain (· ≠ ·)) ∧
      (AtMostOnce (transcript beats [] s) ↔ ¬ Forgets (transcript beats [] s)) := by
  intro s
  obtain ⟨haccurate, hverbatim⟩ := transcript_start rules store registry room clients beats
  exact ⟨hverbatim, haccurate.isChain_verdicts, haccurate.atMostOnce_iff⟩

/-- A success is sent, then a failure, then the same success is heard again. -/
def returningRun : List (Beat Memory) :=
  [.event (.checks (sampleChecks .success)), .task 0, .tick, .tick, .alarm 0,
    .event (.checks (sampleChecks .failure)), .task 0, .tick, .tick, .alarm 0,
    .event (.checks (sampleChecks .success)), .task 0, .tick, .tick, .alarm 0]

/-- The success is sent twice. -/
theorem not_atMostOnce_returning :
    ¬ AtMostOnce (transcript returningRun []
      (start ⟨"merge-turn", 2⟩ Memory.volatile Registry.volatile 0)) := by
  intro honce
  have htwice : (verdicts (sampleChecks .success).lane (transcript returningRun []
      (start ⟨"merge-turn", 2⟩ Memory.volatile Registry.volatile 0))).count
        (sampleChecks .success).verdict = 2 := by
    decide +kernel
  exact absurd (htwice ▸ honce _ _) (by decide)

end Service

end MergeTurn
