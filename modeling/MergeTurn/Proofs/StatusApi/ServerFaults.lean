import MergeTurn.Proofs.StatusApi.Postings

set_option autoImplicit false

/-!
# Faults of the service itself

An answer of the five hundreds, or that there were too many requests, is a reason that may pass. But
the status of an answer is only known if its body has a message. A page that a gateway puts in the
place of an answer has none, so it is taken for a failure for good, and the request is not made
again.

## Main definitions

* `MergeTurn.StatusApi.Response.IsServerFault` — an answer puts it down to the service itself.
* `MergeTurn.StatusApi.Response.IsLegible` — an answer has a message.
* `MergeTurn.StatusApi.Poster.Sends` — a request is sent.
* `MergeTurn.StatusApi.Poster.Perseveres` — no fault of the service is the end of it.

## Main results

* `MergeTurn.StatusApi.Response.mayPass_outcome_iff` — which faults of the service may pass.
* `MergeTurn.StatusApi.Poster.perseveres_iff` — a poster perseveres exactly if these are all that it
  meets.

## Design

Whether a request is sent is said by the answers to those before it, so that it also makes sense
where a delay is undefined and posting has no result.
-/

namespace MergeTurn.StatusApi

namespace Response

/-- An answer puts its failure down to the service itself, or to too many requests. -/
def IsServerFault : Response → Prop
  | .answer status _ => status = 429 ∨ (500 ≤ status ∧ status < 600)
  | .broken _ => False

/-- An answer has a body with a message. -/
def IsLegible : Response → Prop
  | .answer _ body => ∃ message, Json.decode readMessage body = .ok message
  | .broken _ => False

end Response

/-- By its code, a fault of the service may pass, whatever the message says. -/
lemma classify_serverFault {status : Nat} (h : status = 429 ∨ (500 ≤ status ∧ status < 600))
    (message : String) : classify (some status) message = .transient := by
  obtain rfl | hrange := h
  · rfl
  · have h429 : status ≠ 429 := by omega
    have h403 : status ≠ 403 := by omega
    simp only [classify, if_neg h429, if_neg h403, if_pos hrange]

/-- An answer that cannot be read is a failure for good. -/
lemma classify_unreadable : classify none "unreadable answer" = .permanent := by decide +kernel

/-- A fault of the service may pass exactly if its answer has a message. -/
lemma Response.mayPass_outcome_iff {a : Response} (h : a.IsServerFault) :
    mayPass a.outcome = true ↔ a.IsLegible := by
  cases a with
  | broken reason => exact h.elim
  | answer status body =>
    have hstatus : ¬ (200 ≤ status ∧ status < 300) := by
      rw [IsServerFault] at h
      omega
    rw [outcome, if_neg hstatus, IsLegible]
    cases hbody : Json.decode readMessage body with
    | ok message =>
      simp [mayPass, Error.isRetriable, Error.relay, ErrorKind.isRetriable, classify_serverFault h]
    | error fault =>
      simp [mayPass, Error.isRetriable, Error.relay, ErrorKind.isRetriable, classify_unreadable]

namespace Poster

variable {p : Poster} {target : StatusTarget} {r : StatusReport} {service : Nat → Response}

/-- A request is sent, counted from zero, by a service's answers to those before it. -/
def Sends (p : Poster) (service : Nat → Response) (n : Nat) : Prop :=
  p.backoff.Attempted (fun n => (service n).outcome) n

/-- No fault of the service is the end of it: as long as requests are left, another one is sent. -/
def Perseveres (p : Poster) (service : Nat → Response) : Prop :=
  ∀ n, p.Sends service n → n < p.backoff.retries → (service n).IsServerFault →
    p.Sends service (n + 1)

/-- The requests that are sent are those of the posting. -/
lemma sends_iff_lt_requests {path uri : String} {posting : Posting} {n : Nat}
    (hroute : IsRoute target.statusUrl path) (huri : requested? path = some uri)
    (hpost : p.post? target r service = some posting) :
    p.Sends service n ↔ n < posting.requests.length := by
  rw [post?_of_route hroute huri] at hpost
  obtain ⟨t, hrun, rfl⟩ := Option.map_eq_some_iff.1 hpost
  dsimp only
  rw [List.length_replicate]
  exact Backoff.attempted_iff_lt_calls hrun

/-- A poster that meets a fault of the service sends another request exactly if the answer has a
message and there is a delay to wait for. -/
lemma sends_succ_iff {n : Nat} (hsends : p.Sends service n) (hleft : n < p.backoff.retries)
    (hfault : (service n).IsServerFault) :
    p.Sends service (n + 1) ↔
      (service n).IsLegible ∧ (p.backoff.delay? n).isSome = true := by
  rw [Sends, Backoff.attempted_succ, Backoff.GoesOn, Response.mayPass_outcome_iff hfault]
  exact ⟨fun h => ⟨h.2.1, h.2.2.2⟩, fun h => ⟨hsends, h.1, hleft, h.2⟩⟩

/-- For a target with a route that can be requested, the requests of a posting are those that are
sent, and posting has no result exactly if a delay that is to be waited for is undefined. The poster
perseveres exactly if each fault of the service that it meets, with requests left, has a message and
is followed by a delay that is defined. -/
theorem perseveres_iff (p : Poster) (target : StatusTarget) (r : StatusReport)
    (service : Nat → Response) {path uri : String} (hroute : IsRoute target.statusUrl path)
    (huri : requested? path = some uri) :
    (∀ posting, p.post? target r service = some posting →
        ∀ n, p.Sends service n ↔ n < posting.requests.length) ∧
      (p.post? target r service = none ↔
        ∃ n, p.Sends service n ∧ mayPass (service n).outcome = true ∧ n < p.backoff.retries ∧
          p.backoff.delay? n = none) ∧
      (p.Perseveres service ↔
        ∀ n, p.Sends service n → n < p.backoff.retries → (service n).IsServerFault →
          (service n).IsLegible ∧ (p.backoff.delay? n).isSome = true) := by
  refine ⟨fun posting hpost n => sends_iff_lt_requests hroute huri hpost, ?_, ?_⟩
  · rw [post?_of_route hroute huri, Option.map_eq_none_iff]
    exact Backoff.run?_eq_none_iff
  · constructor
    · exact fun h n hsends hleft hfault =>
        (sends_succ_iff hsends hleft hfault).1 (h n hsends hleft hfault)
    · exact fun h n hsends hleft hfault =>
        (sends_succ_iff hsends hleft hfault).2 (h n hsends hleft hfault)

/-! ## A gateway's page -/

/-- Perseverance where the only fault of the service has a message. -/
theorem perseveres_busyOnce :
    let path := "/repos/octo/widgets/statuses/1"
    let poster := standard "merge-turn"
    IsRoute (sampleTarget path).statusUrl path ∧ requested? path = some path ∧
      (busyOnce 0).IsServerFault ∧ poster.Perseveres busyOnce := by
  intro path poster
  have hroute : IsRoute (sampleTarget path).statusUrl path := isRoute_sampleTarget
  have huri : requested? path = some path := requested?_sample
  have hlegible : (busyOnce 0).IsLegible :=
    ⟨"busy", Json.decode_compact (Json.plain_object (by simp))⟩
  obtain ⟨-, -, hiff⟩ := perseveres_iff poster (sampleTarget path) (placeLabel (some 0)) busyOnce
    hroute huri
  refine ⟨hroute, huri, .inr (by decide), hiff.2 fun n _ _ hfault => ?_⟩
  cases n with
  | zero => exact ⟨hlegible, by decide +kernel⟩
  | succ n =>
    have hcreated : ¬ (busyOnce (n + 1)).IsServerFault := by simp [busyOnce, Response.IsServerFault]
    exact absurd hfault hcreated

/-- A gateway's page at first, and then a service that takes everything. -/
def pageOnce (n : Nat) : Response :=
  if n = 0 then .answer 502 (Json.utf8 "<html>Bad Gateway</html>")
  else .answer 201 (Json.utf8 (Json.object []).compact)

/-- The page is the end of it, though three requests are left and the next one would be taken. -/
theorem not_perseveres_pageOnce :
    let path := "/repos/octo/widgets/statuses/1"
    let poster := standard "merge-turn"
    IsRoute (sampleTarget path).statusUrl path ∧ requested? path = some path ∧
      (pageOnce 0).IsServerFault ∧ poster.backoff.retries = 3 ∧
      (∃ posting, poster.post? (sampleTarget path) (placeLabel (some 0)) pageOnce = some posting ∧
        posting.requests.length = 1) ∧ ¬ poster.Perseveres pageOnce := by
  intro path poster
  have hroute : IsRoute (sampleTarget path).statusUrl path := isRoute_sampleTarget
  have huri : requested? path = some path := requested?_sample
  have hfault : (pageOnce 0).IsServerFault := .inr (by decide)
  have hgood : mayPass (pageOnce 0).outcome = false := by decide +kernel
  have hends : mayPass (pageOnce 0).outcome = true → poster.backoff.retries ≤ 0 := fun h => by
    cases hgood.symm.trans h
  have hfirst : poster.backoff.Attempted (fun n => (pageOnce n).outcome) 0 := Backoff.attempted_zero
  obtain ⟨waits, -, hrun⟩ := Backoff.run?_of_ends hfirst hends
  refine ⟨hroute, huri, hfault, rfl, ⟨_, by rw [post?_of_route hroute huri, hrun]; rfl, rfl⟩, ?_⟩
  intro h
  have hmore : poster.Sends pageOnce 1 := h 0 Backoff.attempted_zero (by decide) hfault
  cases hgood.symm.trans (Backoff.attempted_succ.1 hmore).2.1

end Poster

end MergeTurn.StatusApi
