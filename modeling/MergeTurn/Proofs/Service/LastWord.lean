import MergeTurn.Proofs.Service.HeadNotices
import MergeTurn.Proofs.Service.Lockstep
import MergeTurn.Proofs.Service.Parts

set_option autoImplicit false

/-!
# The last word on a closed pull request

A pull request that is closed gets its last status and is forgotten. Whatever is still to be done
then for lanes that it was in looks up whom it posts for in the registry, so nothing more is posted
for the pull request until a webhook puts it on record again, even if it is booked by hand.

## Main definitions

* `MergeTurn.Registry.Only` — all pull requests on record are of a kind.
* `MergeTurn.Service.SpeaksOf` — so are all for whom something was posted since.
* `MergeTurn.OnePage` — no two pull requests share a page.

## Main results

* `MergeTurn.Service.SpeaksOf.upheld` — whatever is done is about what is on record and what webhooks
  put there.
* `MergeTurn.Service.last_word_of_closed` — the last status of a closed pull request stays.

## Design

All this is so over any store, since what the store answers only decides whether and where a label
is posted, not for whom.
-/

namespace MergeTurn

/-! ## Records of a kind -/

namespace Registry

/-- Every pull request on record is of a kind, and is there under its own key. -/
def Only (K : Pull → Prop) (r : Registry) : Prop :=
  ∀ key p, r.get? key = some p → p.key = key ∧ K p

variable {K : Pull → Prop} {r : Registry}

/-- A pull request of the kind may be recorded. -/
lemma Only.record (h : r.Only K) {p : Pull} (hp : K p) : (r.record p).Only K := by
  intro key q hq
  rw [get?_record] at hq
  split_ifs at hq with hkey
  · cases hq
    exact ⟨hkey.symm, hp⟩
  · exact h key q hq

/-- Any pull request may be forgotten. -/
lemma Only.forget (h : r.Only K) (gone : PullKey) : (r.forget gone).Only K := by
  intro key q hq
  rw [get?_forget] at hq
  split_ifs at hq
  exact h key q hq

/-- All that is on record is of the kind of what is on record. -/
lemma Keyed.only (h : r.Keyed) : r.Only (· ∈ r.pulls) := by
  intro key p hp
  refine ⟨h key p hp, List.mem_map.2 ⟨(key, p), ?_, rfl⟩⟩
  exact Std.ExtTreeMap.mem_toList_iff_getElem?_eq_some.2 hp

end Registry

/-! ## What is posted -/

namespace Service

variable {σ : Type} {K : Pull → Prop} {s t u : Service σ}

/-- All pull requests on record are of a kind, and so are all for whom something was posted since
the service was in an earlier state. -/
structure SpeaksOf (K : Pull → Prop) (s t : Service σ) : Prop where
  records : t.registry.Only K
  clients : t.clients = s.clients
  reports : ∃ more, t.ledger.reports = s.ledger.reports ++ more ∧
    ∀ a ∈ more, ∃ p, K p ∧ a.call.1 = p.statusTarget

namespace SpeaksOf

/-- Nothing was posted yet. -/
lemma refl (h : s.registry.Only K) : SpeaksOf K s s :=
  ⟨h, rfl, [], by simp, by simp⟩

/-- Something is posted for a pull request of the kind. -/
lemma post (h : SpeaksOf K s t) {p : Pull} (hp : K p) (lane : Lane) (report : StatusReport) :
    SpeaksOf K s (t.post lane p report).2 := by
  obtain ⟨more, hmore, hof⟩ := h.reports
  rw [post_eq lane p report]
  refine ⟨h.records, h.clients,
    more ++ [⟨(p.posting lane report).call, t.clients.status t.ledger.reports.length⟩], ?_, ?_⟩
  · simp [hmore]
  · intro a ha
    rcases List.mem_append.1 ha with ha | ha
    · exact hof a ha
    · rw [List.mem_singleton.1 ha]
      exact ⟨p, hp, rfl⟩

/-- Whatever is done posts for pull requests on record and for those that it is about. -/
theorem upheld (K : Pull → Prop) (s : Service σ) : Upheld K (SpeaksOf K s) := by
  refine Upheld.of_silent (fun h hsilent => ?_) (fun h _ => ?_) (fun h p hp => ?_)
    (fun h p _ => ?_) (fun h lane p hp report => ?_)
  · exact ⟨hsilent.registry ▸ h.records, hsilent.clients.trans h.clients,
      hsilent.reports ▸ h.reports⟩
  · exact ⟨h.records, h.clients, h.reports⟩
  · exact ⟨h.records.record hp, h.clients, h.reports⟩
  · exact ⟨h.records.forget p.key, h.clients, h.reports⟩
  · rcases hp with hp | ⟨n, hp⟩
    · exact h.post hp lane report
    · exact h.post (h.records _ p hp).2 lane report

end SpeaksOf

end Service

/-! ## Closing -/

/-- No two pull requests share a page. -/
def OnePage (pulls : List Pull) : Prop :=
  ∀ p ∈ pulls, ∀ q ∈ pulls, p.statusUrl = q.statusUrl → p.key = q.key

namespace Service

variable {σ : Type} [Store σ] {s t : Service σ}

/-- Reports on other pages do not change what was posted last to a page. -/
lemma lastReport_append_of_ne {url : String} {later : List (StatusTarget × StatusReport)}
    (h : ∀ c ∈ later, c.1.statusUrl ≠ url) (reports : List (StatusTarget × StatusReport)) :
    lastReport url (reports ++ later) = lastReport url reports := by
  have hnone : later.reverse.find? (·.1.statusUrl == url) = none := by
    simpa using h
  rw [lastReport, List.reverse_append, List.find?_append, hnone, Option.none_or, lastReport]

/-- Closing a pull request posts its last status, and nothing else, and forgets it. -/
lemma closed_reports {p : Pull} {closing : Closing} {o : UnbookOutcome}
    (h : s.closed p closing = (.ok o, t)) :
    t.registry.get? p.key = none ∧ t.ledger.reports = s.ledger.reports ++
      [⟨(p.statusTarget, closing.label.withTarget p.pageUrl),
        s.clients.status s.ledger.reports.length⟩] := by
  obtain ⟨store, tasks, events, hwrites⟩ := s.atDesk_writes (Desk.unbook p.lane p.number true)
  unfold closed unbook at h
  rcases hop : s.atDesk (Desk.unbook p.lane p.number true) with ⟨_ | outcome, u⟩
  all_goals rw [hop] at h hwrites
  · cases h
  · cases h
    subst hwrites
    exact ⟨(Registry.get?_forget ..).trans (if_pos rfl),
      congrArg (fun v : Service σ => v.ledger.reports) (post_eq p.lane p closing.label _)⟩

/-- The last status of a closed pull request stays. After any schedule, with whatever is still to be
done then, closing a pull request posts that it was merged and by whom, or that it would have to be
booked to be merged. As long as no webhook is about the pull request again, all that is posted later
is posted for others, whatever else is done, so what was posted then is the last report on its
page.

**Proof sketch.** Whatever is done posts for pull requests on record and for those that webhooks are
about. Once it is forgotten, the closed one is neither. -/
theorem last_word_of_closed {rules : Rules} {store : σ} {registry : Registry} {room : Nat}
    {clients : Clients} {before after : List (Act σ)} {p : Pull} {closing : Closing}
    {o : UnbookOutcome} (hkeyed : registry.Keyed)
    (hpages : OnePage (registry.pulls ++ before.filterMap Act.pull? ++
      p :: after.filterMap Act.pull?))
    (hbefore : (enact before { start rules store registry room with clients }).2 = s)
    (hclosed : s.closed p closing = (.ok o, t))
    (hafter : ∀ q ∈ after.filterMap Act.pull?, q.key ≠ p.key) :
    let last := closing.label.withTarget p.pageUrl
    (match closing with
      | .merged merger => last.state = .success ∧ last.description = "Merged by " ++ merger
      | .dropped => last.state = .failure ∧ last.description = "Book to merge") ∧
    t.ledger.reports = s.ledger.reports ++
      [⟨(p.statusTarget, last), clients.status s.ledger.reports.length⟩] ∧
    ∃ later, (enact after t).2.ledger.reports = t.ledger.reports ++ later ∧
      (∀ a ∈ later, ∃ q ∈ registry.pulls ++ before.filterMap Act.pull? ++
        after.filterMap Act.pull?, q.key ≠ p.key ∧ a.call.1 = q.statusTarget) ∧
      lastReport p.statusUrl ((enact after t).2.ledger.reports.map (·.call)) = some last := by
  intro last
  have hknown : SpeaksOf (· ∈ registry.pulls ++ before.filterMap Act.pull?)
      { start rules store registry room with clients } s := by
    rw [← hbefore]
    refine (SpeaksOf.upheld _ _).enact (SpeaksOf.refl fun key q hq => ?_)
      fun q hq => List.mem_append_right _ hq
    exact (hkeyed.only key q hq).imp_right (List.mem_append_left _)
  obtain ⟨hgone, hreports⟩ := closed_reports hclosed
  -- All that was on record still is, but for the closed pull request.
  have hothers : t.registry.Only fun q => q ∈ registry.pulls ++ before.filterMap Act.pull? ++
      after.filterMap Act.pull? ∧ q.key ≠ p.key := by
    have hrecords : t.registry.Only fun q =>
        q ∈ registry.pulls ++ before.filterMap Act.pull? ∨ q = p := by
      have hclose : SpeaksOf (fun q => q ∈ registry.pulls ++ before.filterMap Act.pull? ∨ q = p) s
          (s.closed p closing).2 := by
        refine (SpeaksOf.upheld _ s).perform (c := .closed p closing)
          (SpeaksOf.refl fun key q hq => ?_) fun q hq => Or.inr (Option.some.inj hq).symm
        exact (hknown.records key q hq).imp_right Or.inl
      rw [hclosed] at hclose
      exact hclose.records
    intro key q hq
    obtain ⟨hkey, hq'⟩ := hrecords key q hq
    have hne : q.key ≠ p.key := by
      intro heq
      rw [← hkey, heq, hgone] at hq
      cases hq
    rcases hq' with hq' | rfl
    · exact ⟨hkey, List.mem_append_left _ hq', hne⟩
    · exact absurd rfl hne
  have hspeaks : SpeaksOf _ t (enact after t).2 :=
    (SpeaksOf.upheld _ t).enact (SpeaksOf.refl hothers) fun q hq =>
      ⟨List.mem_append_right _ hq, hafter q hq⟩
  obtain ⟨later, hlater, hof⟩ := hspeaks.reports
  refine ⟨?_, ?_, later, hlater, fun a ha => ?_, ?_⟩
  · cases closing with
    | merged merger => exact ⟨rfl, rfl⟩
    | dropped => exact ⟨rfl, rfl⟩
  · rw [hreports, hknown.clients]
  · obtain ⟨q, ⟨hq, hne⟩, hcall⟩ := hof a ha
    exact ⟨q, hq, hne, hcall⟩
  · rw [hlater, List.map_append, lastReport_append_of_ne, hreports, List.map_append]
    · exact (lastReport_append ..).trans (if_pos rfl)
    · intro c hc hurl
      obtain ⟨a, ha, rfl⟩ := List.mem_map.1 hc
      obtain ⟨q, ⟨hq, hne⟩, hcall⟩ := hof a ha
      rw [hcall] at hurl
      refine hne (hpages q ?_ p (by simp) hurl)
      simp only [List.mem_append, List.mem_cons] at hq ⊢
      tauto

/-- Two pull requests are opened, and the first is taken out by hand and booked again. No task has
run. -/
def restlessSchedule : List (Act Memory) :=
  [.call (.opened (samplePull 1 "one") Time.Timestamp.epoch),
    .call (.opened (samplePull 2 "two") Time.Timestamp.epoch),
    .call (.unbook (samplePull 1 "one").lane ⟨1⟩),
    .call (.book (samplePull 1 "one").lane ⟨⟨1⟩, "mona", Time.Timestamp.epoch⟩)]

/-- The first is booked by hand once more, the second is updated, and all comes to rest. -/
def aftermathSchedule : List (Act Memory) :=
  [.call (.book (samplePull 1 "one").lane ⟨⟨1⟩, "mona", Time.Timestamp.epoch⟩),
    .call (.updated (samplePull 2 "two")), .drain]

/-- If the first is merged in between, while twenty tasks are waiting, its page says so in the end.
All four reports after that go to the page of the second. -/
theorem last_word_of_closed_restless :
    Registry.volatile.Keyed ∧
    OnePage (Registry.volatile.pulls ++ restlessSchedule.filterMap Act.pull? ++
      samplePull 1 "one" :: aftermathSchedule.filterMap Act.pull?) ∧
    (∀ q ∈ aftermathSchedule.filterMap Act.pull?, q.key ≠ (samplePull 1 "one").key) ∧
    ∃ o t, (enact restlessSchedule fresh).2.closed (samplePull 1 "one") (.merged "mona") =
        (.ok o, t) ∧
      t.tasks.length = 20 ∧
      ((enact aftermathSchedule t).2.ledger.reports.map (·.call.1.statusUrl)) =
        "one" :: List.replicate 4 "two" ∧
      lastReport "one" ((enact aftermathSchedule t).2.ledger.reports.map (·.call)) =
        some ⟨.success, "Merged by mona", some "link"⟩ := by
  have hkeyed : Registry.volatile.Keyed := Registry.keyed_of_entries_empty rfl
  have hpages : OnePage (Registry.volatile.pulls ++ restlessSchedule.filterMap Act.pull? ++
      samplePull 1 "one" :: aftermathSchedule.filterMap Act.pull?) := by
    unfold OnePage
    decide +kernel
  have hafter : ∀ q ∈ aftermathSchedule.filterMap Act.pull?,
      q.key ≠ (samplePull 1 "one").key := by
    decide +kernel
  have hrun : let x := (enact restlessSchedule fresh).2.closed (samplePull 1 "one") (.merged "mona")
      x.1.toOption.isSome = true ∧ x.2.tasks.length = 20 ∧
      ((enact aftermathSchedule x.2).2.ledger.reports.map (·.call.1.statusUrl)) =
        "one" :: List.replicate 4 "two" := by
    decide +kernel
  have hlabel : (Closing.merged "mona").label.withTarget (samplePull 1 "one").pageUrl =
      ⟨.success, "Merged by mona", some "link"⟩ := by
    decide +kernel
  refine ⟨hkeyed, hpages, hafter, ?_⟩
  rcases hclosed : (enact restlessSchedule fresh).2.closed (samplePull 1 "one") (.merged "mona") with
    ⟨_ | o, t⟩
  all_goals
    rw [hclosed] at hrun
    obtain ⟨hok, htasks, hreports⟩ := hrun
  · cases hok
  · obtain ⟨-, -, later, -, -, hlast⟩ := last_word_of_closed hkeyed hpages rfl hclosed hafter
    exact ⟨o, t, rfl, htasks, hreports, hlast.trans (congrArg some hlabel)⟩

end Service

end MergeTurn
