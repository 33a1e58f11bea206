import MergeTurn.Proofs.Json.Layouts
import MergeTurn.Proofs.Json.Tagged
import MergeTurn.Proofs.StatusApi.Attempts
import MergeTurn.StatusApi.Poster

set_option autoImplicit false

/-!
# What a poster requests

A report is posted to the route of its target, in requests that are all the same: each says what the
report says, as far as the service keeps it. The report is posted if the last request succeeds, and
every request before that was answered by an error that may pass. A url without a route is refused
before anything is requested.

## Main definitions

* `MergeTurn.StatusApi.IsRoute` — a path is what a url holds from its first `/repos/` on.
* `MergeTurn.StatusApi.IsLongestPrefix` — a text is cut off where there is no more room.
* `MergeTurn.StatusApi.Request.Posts` — a request says to a path what a report says.
* `MergeTurn.StatusApi.Posting.Delivers` — all requests of a posting do, as often as they should.

## Main results

* `MergeTurn.StatusApi.route_eq_ok_iff` — the route of a url is what it holds from the first
  `/repos/` on.
* `MergeTurn.StatusApi.Poster.request_posts` — a poster's request says what the report says.
* `MergeTurn.StatusApi.Poster.post_delivers` — so do all requests of a posting.

## Design

A request is made without the fragment of its path, that is without what stands from the first
number sign on. Fragments are never sent to a service.
-/

namespace MergeTurn.Text

/-- What follows from the first occurrence of a piece on begins with the piece, which begins nowhere
before. -/
lemma suffixFrom?_eq_some_iff {piece text suffix : List Char} :
    suffixFrom? piece text = some suffix ↔
      ∃ before, text = before ++ suffix ∧ piece <+: suffix ∧
        ∀ k < before.length, ¬ piece <+: text.drop k := by
  induction text with
  | nil =>
    cases piece with
    | nil => simp [suffixFrom?, eq_comm]
    | cons c piece => simp +contextual [suffixFrom?]
  | cons c r ih =>
    by_cases hfirst : piece <+: c :: r
    · rw [suffixFrom?, if_pos (List.isPrefixOf_iff_prefix.2 hfirst)]
      constructor
      · rintro h
        cases h
        exact ⟨[], rfl, hfirst, fun k hk => absurd hk (Nat.not_lt_zero k)⟩
      · rintro ⟨before, htext, -, hnone⟩
        cases before with
        | nil => rw [htext, List.nil_append]
        | cons d before => exact absurd hfirst (hnone 0 (Nat.succ_pos _))
    · rw [suffixFrom?, if_neg (fun h => hfirst (List.isPrefixOf_iff_prefix.1 h)), ih]
      constructor
      · rintro ⟨before, rfl, hpiece, hnone⟩
        refine ⟨c :: before, rfl, hpiece, fun k hk => ?_⟩
        cases k with
        | zero => exact hfirst
        | succ k => exact hnone k (Nat.lt_of_succ_lt_succ hk)
      · rintro ⟨before, htext, hpiece, hnone⟩
        cases before with
        | nil => exact absurd (htext ▸ hpiece) hfirst
        | cons d before =>
          obtain ⟨rfl, rfl⟩ := List.cons_eq_cons.1 htext
          exact ⟨before, rfl, hpiece, fun k hk => hnone (k + 1) (Nat.succ_lt_succ hk)⟩

end MergeTurn.Text

namespace MergeTurn.StatusApi

open Json (text)
open Time (Span)

/-! ## Routes -/

/-- A path is what a url holds from its first `/repos/` on. -/
def IsRoute (url path : String) : Prop :=
  ∃ before, url.toList = before ++ path.toList ∧ routeStart <+: path.toList ∧
    ∀ k < before.length, ¬ routeStart <+: url.toList.drop k

/-- The route of a url is what it holds from its first `/repos/` on. -/
lemma route_eq_ok_iff {url path : String} : route url = .ok path ↔ IsRoute url path := by
  rw [IsRoute, ← Text.suffixFrom?_eq_some_iff, route]
  cases Text.suffixFrom? routeStart url.toList with
  | none => simp
  | some suffix =>
    simp only [Except.ok.injEq, Option.some.injEq]
    exact ⟨fun h => by rw [← h, String.toList_ofList], fun h => by rw [h, String.ofList_toList]⟩

/-- A url that holds no `/repos/` is refused for good. -/
lemma route_of_not_mentioned {url : String} (h : ¬ routeStart <:+: url.toList) :
    route url = .error (.permanent ("not a statuses URL: " ++ url)) := by
  have hnone : Text.suffixFrom? routeStart url.toList = none := by
    rw [← Option.not_isSome_iff_eq_none, Text.isSome_suffixFrom?, Text.contains_iff]
    exact h
  rw [route, hnone]

/-- A path is requested up to its first number sign. -/
lemma requested?_eq_some {path uri : String} (h : requested? path = some uri) :
    uri.toList = path.toList.takeWhile (· != '#') := by
  unfold requested? at h
  dsimp only at h
  split at h
  · cases h
    rw [String.toList_ofList]
  · cases h

/-! ## What a request says -/

/-- A text is the longest beginning of another that has room. -/
def IsLongestPrefix (room : Nat) (whole short : String) : Prop :=
  short.toList <+: whole.toList ∧ short.toList.length ≤ room ∧
    ∀ cs, cs <+: whole.toList → cs.length ≤ room → cs <+: short.toList

/-- A text is cut off where there is no more room. -/
lemma isLongestPrefix_take (room : Nat) (whole : String) :
    IsLongestPrefix room whole (String.ofList (whole.toList.take room)) := by
  rw [IsLongestPrefix, String.toList_ofList]
  refine ⟨List.take_prefix room _, List.length_take_le room _, fun cs hcs hroom => ?_⟩
  exact List.prefix_take_iff.2 ⟨hcs, hroom⟩

/-- A request says to a path, in a context, what a report says: it is made to the path without its
fragment, with a JSON text of one member for each part. -/
structure Request.Posts (context path : String) (r : StatusReport) (q : Request) : Prop where
  method : Request.method = "POST"
  route : ∃ fragment, path.toList = q.route.toList ++ fragment ∧ '#' ∉ q.route.toList ∧
    ∀ c ∈ fragment.head?, c = '#'
  body : ∃ ms description, q.body = .obj ms ∧ ms.named "state" = [text r.state.word] ∧
    (ms.named "description" = [text description] ∧
      IsLongestPrefix 140 r.description description) ∧
    ms.named "target_url" = (r.targetUrl.map text).toList ∧ ms.named "context" = [text context]
  readable : Json.ofBytes (Json.utf8 q.body.compact) = (q.body, true)

/-- The body of a request has a text of its own. -/
lemma Request.plain_body (q : Request) : q.body.Plain = true := by
  refine Json.plain_object ?_
  cases q.targetUrl <;> simp

namespace Poster

variable {p : Poster} {target : StatusTarget} {r : StatusReport} {service : Nat → Response}

/-- A poster's request to the part of a path before the fragment says what the report says. -/
lemma request_posts {path uri : String} (huri : requested? path = some uri) :
    (p.request uri r).Posts p.context path r where
  method := rfl
  route := by
    have hroute : (p.request uri r).route = uri := rfl
    rw [hroute, requested?_eq_some huri]
    refine ⟨path.toList.dropWhile (· != '#'), List.takeWhile_append_dropWhile.symm, ?_, ?_⟩
    · intro hmem
      simpa using List.all_eq_true.1 List.all_takeWhile _ hmem
    · intro c hc
      have hstop := List.head?_dropWhile_not (· != '#') path.toList
      rw [Option.mem_def.1 hc] at hstop
      simpa using hstop
  body := by
    refine ⟨_, _, rfl, ?_, ⟨?_, isLongestPrefix_take 140 r.description⟩, ?_, ?_⟩
    all_goals
      cases hurl : r.targetUrl <;>
        simp [request, hurl, Json.Members.ofList, Json.Members.named, descriptionRoom]
  readable := Json.ofBytes_compact (Request.plain_body _)

end Poster

/-! ## What becomes of requests -/

/-- An answer is a success: its status is one of the two hundreds, and its body is a document. -/
def Response.IsSuccess : Response → Prop
  | .answer status body => (200 ≤ status ∧ status < 300) ∧ Json.isDocument body = true
  | .broken _ => False

/-- Only a success is taken for one. -/
lemma Response.outcome_eq_ok_iff (a : Response) : a.outcome = .ok () ↔ a.IsSuccess := by
  cases a with
  | broken reason => simp [outcome, IsSuccess]
  | answer status body =>
    rw [outcome, IsSuccess]
    split_ifs with hstatus hdocument
    · simp [hstatus, hdocument]
    · simp [hdocument]
    · cases Json.decode readMessage body <;> simp [hstatus]

/-- Whatever is no success is an error that is classified by its code and detail. -/
lemma Response.exists_relay (a : Response) :
    a.outcome = .ok () ∨ ∃ code detail, a.outcome = .error (.relay code detail) := by
  cases a with
  | broken reason => exact .inr ⟨none, reason, rfl⟩
  | answer status body =>
    rw [outcome]
    split_ifs with hstatus hdocument
    · exact .inl rfl
    · exact .inr ⟨none, _, rfl⟩
    · cases Json.decode readMessage body with
      | ok message => exact .inr ⟨some status, message, rfl⟩
      | error fault => exact .inr ⟨none, _, rfl⟩

/-- A response that may pass is classified so. -/
lemma Response.exists_of_mayPass {a : Response} (h : mayPass a.outcome = true) :
    ∃ code detail, a.outcome = .error (.relay code detail) ∧ classify code detail = .transient := by
  obtain hok | ⟨code, detail, herror⟩ := a.exists_relay
  · rw [hok] at h
    cases h
  · refine ⟨code, detail, herror, ?_⟩
    rw [herror] at h
    cases hkind : classify code detail with
    | transient => rfl
    | permanent => simp [mayPass, Error.isRetriable, Error.relay, hkind, ErrorKind.isRetriable] at h

/-- The requests of a posting deliver a report to a path: there is one at least, all of them are the
same and say what the report says, the last one decides what comes of the report, and all before it
were answered by errors that may pass. -/
structure Posting.Delivers (p : Poster) (path : String) (r : StatusReport)
    (service : Nat → Response) (posting : Posting) : Prop where
  requests : ∃ q n, posting.requests = List.replicate (n + 1) q ∧ q.Posts p.context path r
  ok_iff : posting.result = .ok () ↔ (service (posting.requests.length - 1)).IsSuccess
  retried : ∀ i, i + 1 < posting.requests.length → ∃ code detail,
    (service i).outcome = .error (.relay code detail) ∧ classify code detail = .transient

namespace Poster

variable {p : Poster} {target : StatusTarget} {r : StatusReport} {service : Nat → Response}

/-- A report is posted to the route of its target, if that can be requested, as often as the backoff
says. -/
lemma post?_of_route {path uri : String} (hroute : IsRoute target.statusUrl path)
    (huri : requested? path = some uri) :
    p.post? target r service = (p.backoff.run? fun n => (service n).outcome).map fun trial =>
      ⟨trial.result, List.replicate trial.calls (p.request uri r), trial.elapsed⟩ := by
  rw [post?, route_eq_ok_iff.2 hroute]
  dsimp only
  rw [huri]

/-- Posting a report to a route that can be requested delivers it, if it has a result. -/
lemma delivers_of_post? {path uri : String} {posting : Posting}
    (hroute : IsRoute target.statusUrl path) (huri : requested? path = some uri)
    (hpost : p.post? target r service = some posting) : posting.Delivers p path r service := by
  rw [post?_of_route hroute huri] at hpost
  obtain ⟨t, hrun, rfl⟩ := Option.map_eq_some_iff.1 hpost
  obtain ⟨last, hlast, -, hcalls, hresult⟩ := Backoff.exists_of_run? hrun
  constructor
  case requests => exact ⟨_, last, by rw [hcalls], request_posts huri⟩
  case ok_iff =>
    dsimp only
    rw [List.length_replicate, hresult, hcalls]
    exact Response.outcome_eq_ok_iff _
  case retried =>
    intro i hi
    rw [List.length_replicate, hcalls] at hi
    exact Response.exists_of_mayPass (hlast i (Nat.lt_of_succ_lt_succ hi)).1

/-- If the delays of the backoff are defined, posting a report has a result. -/
lemma exists_post? {ds : List Span} (hds : p.backoff.delays? = some ds) (target : StatusTarget)
    (r : StatusReport) (service : Nat → Response) :
    ∃ posting, p.post? target r service = some posting := by
  obtain ⟨n, hn, hends⟩ := Backoff.exists_ends hds fun n => (service n).outcome
  obtain ⟨waits, -, hrun⟩ := Backoff.run?_of_ends hn hends
  rw [post?]
  split
  · exact ⟨_, rfl⟩
  · split
    · exact ⟨_, rfl⟩
    · rw [hrun]
      exact ⟨_, rfl⟩

/-- A target whose url holds no `/repos/` is refused for good, and nothing is requested. If what a
url holds from there on can be requested, posting a report delivers it there, unless it has no
result. It has one if the delays of the poster's backoff are defined. -/
theorem post_delivers (p : Poster) (target : StatusTarget) (r : StatusReport)
    (service : Nat → Response) :
    (¬ routeStart <:+: target.statusUrl.toList →
        ∃ e : Error, e.kind = .permanent ∧ p.post? target r service = some ⟨.error e, [], 0⟩) ∧
      (∀ path posting, IsRoute target.statusUrl path → (requested? path).isSome = true →
        p.post? target r service = some posting → posting.Delivers p path r service) ∧
      ∀ ds, p.backoff.delays? = some ds → ∃ posting, p.post? target r service = some posting := by
  refine ⟨fun hno => ?_, fun path posting hroute hsome hpost => ?_, fun ds hds => ?_⟩
  · exact ⟨.permanent ("not a statuses URL: " ++ target.statusUrl), rfl,
      by rw [post?, route_of_not_mentioned hno]⟩
  · obtain ⟨uri, huri⟩ := Option.isSome_iff_exists.1 hsome
    exact delivers_of_post? hroute huri hpost
  · exact exists_post? hds target r service

/-! ## Two targets -/

/-- A target with a url of a service that is not at the root of its host. -/
def sampleTarget (path : String) : StatusTarget := ⟨none, "https://example.com/api/v3" ++ path⟩

/-- What such a url holds from its first `/repos/` on is the path that was put behind the host. -/
lemma isRoute_sampleTarget :
    IsRoute (sampleTarget "/repos/octo/widgets/statuses/1").statusUrl
      "/repos/octo/widgets/statuses/1" :=
  route_eq_ok_iff.1 (by decide +kernel)

/-- This path is requested as it is. -/
lemma requested?_sample :
    requested? "/repos/octo/widgets/statuses/1" = some "/repos/octo/widgets/statuses/1" := by
  decide +kernel

/-- A service that is busy at first and then takes everything. -/
def busyOnce (n : Nat) : Response :=
  if n = 0 then .answer 503 (Json.utf8 (Json.object [("message", text "busy")]).compact)
  else .answer 201 (Json.utf8 (Json.object []).compact)

/-- A report is delivered to a service that is busy at first. -/
theorem post_delivers_busyOnce :
    let path := "/repos/octo/widgets/statuses/1"
    let poster := standard "merge-turn"
    poster.backoff.delays? = some [.ofMillis 500, .ofSeconds 1, .ofSeconds 2] ∧
      IsRoute (sampleTarget path).statusUrl path ∧ (requested? path).isSome = true ∧
      ∃ posting, poster.post? (sampleTarget path) (placeLabel (some 0)) busyOnce = some posting ∧
        posting.Delivers poster path (placeLabel (some 0)) busyOnce := by
  intro path poster
  have hds : poster.backoff.delays? = some [.ofMillis 500, .ofSeconds 1, .ofSeconds 2] :=
    Backoff.standard_delays?
  have huri : (requested? path).isSome = true := by rw [requested?_sample]; rfl
  obtain ⟨-, hdelivers, hresult⟩ :=
    post_delivers poster (sampleTarget path) (placeLabel (some 0)) busyOnce
  obtain ⟨posting, hpost⟩ := hresult _ hds
  exact ⟨hds, isRoute_sampleTarget, huri, posting, hpost,
    hdelivers path posting isRoute_sampleTarget huri hpost⟩

/-- The fragment of a path is not requested, though the path can be. So what is requested is not
exactly what the url holds from its first `/repos/` on. -/
theorem fragment_not_requested :
    let path := "/repos/octo/widgets/statuses/1#ci"
    let poster := standard "merge-turn"
    IsRoute (sampleTarget path).statusUrl path ∧ (requested? path).isSome = true ∧
      ∃ posting, poster.post? (sampleTarget path) (placeLabel (some 0))
          (fun _ => .answer 201 (Json.utf8 (Json.object []).compact)) = some posting ∧
        posting.requests ≠ [] ∧ ∀ q ∈ posting.requests, q.route ≠ path := by
  intro path poster
  have hds : poster.backoff.delays? = some [.ofMillis 500, .ofSeconds 1, .ofSeconds 2] :=
    Backoff.standard_delays?
  have hroute : IsRoute (sampleTarget path).statusUrl path :=
    route_eq_ok_iff.1 (by decide +kernel)
  have huri : requested? path = some "/repos/octo/widgets/statuses/1" := by decide +kernel
  obtain ⟨posting, hpost⟩ := exists_post? hds (sampleTarget path) (placeLabel (some 0))
    fun _ => .answer 201 (Json.utf8 (Json.object []).compact)
  have hdelivers := delivers_of_post? hroute huri hpost
  obtain ⟨q, n, hrequests, hposts⟩ := hdelivers.requests
  obtain ⟨-, -, hnone, -⟩ := hposts.route
  refine ⟨hroute, by rw [huri]; rfl, posting, hpost, by simp [hrequests], fun q' hq' hpath => ?_⟩
  rw [hrequests, List.mem_replicate] at hq'
  rw [← hq'.2, hpath] at hnone
  exact hnone (by decide +kernel)

end Poster

end MergeTurn.StatusApi
